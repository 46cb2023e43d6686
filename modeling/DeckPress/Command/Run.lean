import DeckPress.Command.Invocation
import DeckPress.Preview.Watch
import DeckPress.Text.Styled

/-!
# Running a command

`Command.run` does what a command line asks for (`build` or `serve`), in the working directory.
What it prints is in the record of the host; `Ending` is the exit status and what it complains
about.  A failure of the build is reported with the file at which it happened
(`_report_build_error`); any other failure is handed on.
-/

namespace DeckPress.Command

/-- How a command ends. -/
structure Ending where
  status : Nat := 0
  complaint : List String := []
deriving DecidableEq, Repr

/-- The version of the program. -/
def version : String := "0.1.0"

/-- A line as it is shown, with its colours or without. -/
def shown (isColoured : Bool) (line : String) : String :=
  if isColoured then line else Styled.plain line

/-- The way to a file as people are told: from the project, if it lies there. -/
def shownPath (root p : Path) : Path := (p.relativeTo? root).getD p

/-- The lines that report a failed build. -/
def report (root : Path) (e : SiteError) : List String :=
  let command := (e.run?.getD {}).command
  [Styled.coloured .red true "Build failed:",
    Styled.coloured .yellow false s!"  File: {shownPath root e.path}",
    Styled.coloured .white false ("  Error: " ++ e.message)] ++
  if command.isEmpty then []
  else [Styled.coloured .white false ("  Command: " ++ " ".intercalate command)]

/-- The settings that options change. -/
def Overrides.apply (o : Overrides) (s : Settings) : Settings :=
  [(Settings.contentDir, o.contentDir?), (Settings.theme, o.theme?),
    (Settings.outputDir, o.outputDir?)].foldl
    (fun s (key, value?) => match value? with
      | some value => s.set key (.str value)
      | none => s) s

/-- Ends a command as its result says: a failed build is reported. -/
def conclude (isColoured : Bool) (root : Path) (result : Except Failure Unit) : Act Ending :=
  match result with
  | .ok () => return {}
  | .error (.site e) =>
    return { status := 1, complaint := (report root e).map (shown isColoured) }
  | .error f => throw f

/-- Builds the site. -/
def build (answer : Act Unit) (isColoured : Bool) (overrides : Overrides) : Act Ending := do
  let root := (← get).cwd
  let settings := overrides.apply (← Settings.load root)
  let result ← Act.attempt do
    let site ← Site.build answer root none (some settings)
    Act.print (shown isColoured s!"Rewrote {site.pages.length} HTML files in {site.outputDir}")
  conclude isColoured root result

/-- Runs an act that leaves the progress of the preview as it was. -/
def keepingProgress {α : Type} (a : Act α) : Act α := do
  let progress := (← get).progress
  let result ← Act.attempt a
  modify fun h => { h with progress }
  Act.resume result

/-- Serves the site and watches its sources, until told to stop. -/
def serve (answer : Act Unit) (isColoured : Bool) (number? : Option Int) : Act Ending := do
  let root := (← get).cwd
  let preview ← Preview.ofProject root number?
  conclude isColoured root (← Act.attempt do
    preview.build answer
    keepingProgress preview.run)

/-- Does what the program is asked to do. -/
def perform (answer : Act Unit) (isColoured : Bool) : Invocation → Act Ending
  | .help d => do
    for line in d.page do Act.print line
    return {}
  | .version => do
    Act.print s!"{Description.program.call}, version {version}"
    return {}
  | .build overrides => build answer isColoured overrides
  | .serve number? => serve answer isColoured number?

/-- Whether a failure is that nobody reads the output any more; the program then just ends. -/
def isBrokenPipe : Failure → Bool
  | .cause (.os (.numbered e _ _ _)) => e.code = 32
  | _ => false

/-- Runs a command line.  If the renderer asks for a rebuild while it runs, `answer` is what is
done. -/
def run (answer : Act Unit) (isColoured : Bool) (words : List String) : Act Ending := do
  match Invocation.ofWords words with
  | .error misuse =>
    return { status := 2, complaint := misuse.report.map (shown isColoured) }
  | .ok invocation =>
    match ← Act.attempt (perform answer isColoured invocation) with
    | .error f => if isBrokenPipe f then return { status := 1 } else throw f
    | .ok ending => return ending

end DeckPress.Command
