import DeckPress.Program.Search
import DeckPress.Tree.Install

/-!
# Rendering

A renderer (`SiteRenderer`) makes the pages of a site from the slides.  The renderer of a project is
a program (`RevealMdRenderer`):

* `Rendering.command` (`command`) is its command line.
* `Rendering.byProgram` (`render`) looks for the program, runs it and waits for its end.  Whether it
  is missing, cannot be started or ends with a status other than zero, the failure names the slides
  and says how far the program came.
* `Rendering.refusal?` is what the system looks at before it starts a program; `Rendering.launch` is
  a call of the program or its refusal.
* `Rendering.writing` and `Rendering.failing` are renderers that need no program.
-/

namespace DeckPress

/-- What makes the pages of a site: from the slides, in a directory, with a style sheet. -/
abbrev Renderer := (contentDir outputDir theme : Path) → Act Unit

namespace Rendering

/-- The command line for a site without a server. -/
def command (program : String) (contentDir outputDir theme : Path) : List String :=
  [program, contentDir.toString, "--static", outputDir.toString, "--theme", theme.toString]

/-- Whether a text can be handed to a program as a word of its command line. -/
def isWord (s : String) : Bool := !s.toList.contains '\x00'

/-- Why the system does not start a program with a command line in a directory, if it does not: a
word or the directory cannot be handed on, or the directory cannot be entered. -/
def refusal? (h : Host) (command : List String) (directory : Path) : Option Cause :=
  if directory.hasNul || !command.all isWord then some .nulInPath
  else
    match h.locate directory >>= h.tree.enter with
    | .ok () => none
    | .error e => some (.os (.numbered e e.text (some (.path directory)) none))

/-- What a call of the renderer that is installed does to the tree, and how it ends: as the run of
the program does, unless the system does not start it. -/
def launch (h : Host) (command : List String) (directory : Path) : Except Cause Int × Tree :=
  match if h.program.isPlayed then none else refusal? h command directory with
  | some c => (.error c, h.tree)
  | none => h.program.run command directory.names h.tree

/-- Runs the renderer that is installed to its end.  If the program asks for a rebuild while it
runs, `answer` is what is done; if that fails for a cause, the run does. -/
def run (answer : Act Unit) (command : List String) (directory : Path) :
    Act (Except Cause Int) := do
  Act.record (.started command directory)
  let h ← get
  let (result, tree) := launch h command directory
  Act.commit tree
  match result with
  | .error c => return .error c
  | .ok status =>
    match ← if h.program.asksForRebuild then Act.attempt answer else pure (.ok ()) with
    | .error (.cause c) => return .error c
    | .error e => throw e
    | .ok () =>
      match h.program.clockAfter? with
      | some time => modify fun h => { h with clock := time }
      | none => pure ()
      return .ok status

/-- The renderer that is the program `name` of the project at `root`. -/
def byProgram (answer : Act Unit) (root : Path) (name : String) : Renderer :=
  fun contentDir outputDir theme => do
    match ← Program.find? name (some root) true with
    | none => throw (.site ⟨contentDir, .notInstalled name, some {}⟩)
    | some program =>
      let command := command program contentDir outputDir theme
      match ← run answer command root with
      | .error c =>
        if c.isOs then throw (.site ⟨contentDir, .notStarted name c, some ⟨command, none⟩⟩)
        else Act.fail c
      | .ok status =>
        if status ≠ 0 then
          throw (.site ⟨contentDir, .exited name status, some ⟨command, some status⟩⟩)

/-- A renderer that writes the same files on every call. -/
def writing (files : List (String × Node)) : Renderer := fun contentDir outputDir theme => do
  Act.record (.rendering contentDir outputDir theme)
  let h ← get
  match h.tree.makeDirectories h.cwd.names h.shows outputDir >>=
      Tree.installAll h.cwd.names outputDir files with
  | .ok t => Act.commit t
  | .error (e, p, t) =>
    Act.commit t
    Act.fail (e.on p)

/-- A renderer that fails on every call. -/
def failing (message : String) (report : RunReport) : Renderer :=
  fun contentDir outputDir theme => do
    Act.record (.rendering contentDir outputDir theme)
    throw (.site ⟨contentDir, .stated message none, some report⟩)

end Rendering

end DeckPress
