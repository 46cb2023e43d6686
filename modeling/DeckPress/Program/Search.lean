import DeckPress.Host.Files

/-!
# Where programs are

A program is installed with a project, below its top, or on the host, in one of the directories of
the search path.  A name that has a directory in it is looked for at that place only, and not along
the search path.

* `Program.find?` (`find_executable`) looks in both; which comes first is up to the caller.
* `Program.onHost?` is the search along the search path.
-/

namespace DeckPress.Program

/-- The place of a program that is installed with the project at `root`. -/
def localPath (root : Path) (name : String) : Path := root / "node_modules" / ".bin" / name

/-- The file `name` in a directory of the search path; an empty entry is the working directory. -/
def inDirectory (directory name : List Char) : List Char :=
  if directory.isEmpty || directory.getLast? = some '/' then directory ++ name
  else directory ++ '/' :: name

/-- Whether a written path ends in a name, so that it may lead to a file. -/
def endsInName (file : List Char) : Bool :=
  ((Text.pieces '/' file).getLast?).any Path.isName

/-- Whether a written path leads to a file that can be run. -/
def canRun (h : Host) (file : List Char) : Bool :=
  endsInName file &&
    match h.look (Path.ofString (String.ofList file)) with
    | .ok (some (.file f)) => f.isExecutable
    | _ => false

/-- Looks for a program on the host. -/
def onHost? (h : Host) (name : String) : Option String :=
  let candidates :=
    if name.toList.contains '/' then [name.toList]
    else if h.searchPath.isEmpty then []
    else (Text.pieces ':' h.searchPath.toList).map (inDirectory · name.toList)
  (candidates.find? (canRun h)).map String.ofList

/-- Looks for a program in the project, if there is one, and on the host.  The host comes first,
unless `preferLocal` is set. -/
def find? (name : String) (root? : Option Path) (preferLocal : Bool) : Act (Option String) := do
  let local? ← match root? with
    | none => pure none
    | some root =>
      let path := localPath root name
      pure (if ← Act.isThere path then some path.toString else none)
  let onHost? := onHost? (← get) name
  return if preferLocal then local? <|> onHost? else onHost? <|> local?

end DeckPress.Program
