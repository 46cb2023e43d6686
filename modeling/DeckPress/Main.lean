import DeckPress.Command.Run
import DeckPress.Program.Writing

/-!
# The program on the command line

Runs a command line on what the working directory says about a project: the document with its
settings, and whether the renderer is installed with it.  The renderer itself is not started from
here, so that a build ends at that point with a report.
-/

namespace DeckPress

/-- Puts a file of the working directory into a tree, if it is there. -/
def withDiskFile (cwd file : Path) (t : Tree) : IO Tree := do
  match ← (IO.FS.readBinFile file.toString).toBaseIO with
  | .ok bytes =>
    let f : File := { bytes := bytes.toList, isExecutable := true }
    return (t.install cwd.names file (.file f)).toOption.getD t
  | .error _ => return t

/-- A host with the given files, on which no program can be run. -/
def hostOf (cwd : Path) (t : Tree) : Host where
  tree := t
  cwd := cwd
  program := Program.broken (.os (.numbered ⟨38⟩ (Errno.text ⟨38⟩) none none))

/-- The name of the renderer of a project, if its settings can be read. -/
def rendererName? (h : Host) : Option String :=
  match (Settings.load h.cwd).on h with
  | (.ok settings, _) => (settings.text Settings.renderer).toOption
  | (.error _, _) => none

/-- The lines that were printed, in order. -/
def printedLines (h : Host) : List String :=
  h.events.reverse.filterMap fun
    | .printed line => some line
    | _ => none

/-- The host that the working directory makes. -/
def readHost (cwd : Path) : IO Host := do
  let top := (List.range cwd.names.length).foldl
    (fun (t : Tree) n => t.set (cwd.names.take (n + 1)) .directory) ∅
  let host := hostOf cwd (← withDiskFile cwd (cwd.child Settings.fileName) top)
  match rendererName? host with
  | none => return host
  | some name =>
    let tree ← withDiskFile cwd (Program.localPath cwd name) host.tree
    return { host with tree }

end DeckPress

open DeckPress in
/-- Runs a command line in the working directory. -/
def main (words : List String) : IO UInt32 := do
  let host ← readHost (Path.ofString (← IO.currentDir).toString)
  let isColoured ← (← IO.getStderr).isTty
  let (result, after) := (Command.run (pure ()) isColoured words).on host
  for line in printedLines after do IO.println line
  match result with
  | .ok ending =>
    for line in ending.complaint do IO.eprintln line
    return ending.status.toUInt32
  | .error f =>
    IO.eprintln f.text
    return 1
