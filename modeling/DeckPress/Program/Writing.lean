import DeckPress.Host.Basic
import DeckPress.Tree.Install

/-!
# Programs that write fixed files

A renderer whose sources do not change makes the same files on every run.  `Program.writer` is such
a program: it makes the directory that its command line names for the site and puts its files there.
`Program.writing` and `Program.broken` are played, as trials do it that have no renderer at hand.
-/

namespace DeckPress.Program

/-- The directory that a command line names for the site; it counts from the directory in which the
program is started. -/
def outputOf (command : List String) (cwd : Loc) : Path :=
  Path.append ⟨.top, cwd⟩ (Path.ofString (command[3]?.getD ""))

/-- The failure to run that a broken file operation of a program amounts to. -/
def failureOf (broken : Tree.Broken) : Cause × Tree := (broken.1.on broken.2.1, broken.2.2)

/-- The run of a program that writes `files` into the directory for the site and ends with a
status. -/
def writeFiles (files : List (String × Node)) (status : Int) (command : List String) (cwd : Loc)
    (t : Tree) : Except Cause Int × Tree :=
  let output := outputOf command cwd
  let written := do
    Tree.installAll cwd output files (← t.makeDirectories cwd (fun _ => true) output)
  if output.hasNul then (.error .nulInPath, t)
  else
    match written.mapError failureOf with
    | .ok t' => (.ok status, t')
    | .error (c, t') => (.error c, t')

/-- A program that writes the same files on every run. -/
def writer (files : List (String × Node)) (status : Int) : Program where
  run := writeFiles files status

/-- A program that is only played, and writes the same files on every run. -/
def writing (files : List (String × Node)) (status : Int) : Program :=
  { writer files status with isPlayed := true }

/-- A program that is only played, and cannot be run. -/
def broken (cause : Cause) : Program where
  run _ _ t := (.error cause, t)
  isPlayed := true

end DeckPress.Program
