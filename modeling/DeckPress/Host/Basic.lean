import DeckPress.Failure
import DeckPress.Preview.Basic
import DeckPress.Tree.Access

/-!
# The host of a site

A `Host` is what the commands of this library work on: the file tree with the directory they are
started in, the clock, the places where programs are looked for, the renderer that is installed, and
how far the preview has come.  An `Act` is a computation on a host that may fail; what it did before
it failed stays done.

* `Act.attempt` runs an act and hands its failure on as a value.
* `Act.commit` is the only way to change the tree; the host keeps every tree that it passed through.
* `Act.record` notes what can be seen from outside.
-/

namespace DeckPress

/-- The operations that can be made to fail. -/
inductive Call where
  | list
  | read
  | write
  | unlink
  | rename
  /-- Removing a directory with its contents. -/
  | removeTree
  /-- Moving a new site to its place. -/
  | replace
  | stat
deriving DecidableEq, Repr

/-- A failure that waits for a call on a path. -/
structure Fault where
  call : Call
  path : Path
  cause : Cause
deriving DecidableEq, Repr

/-- A program that renders slides. -/
structure Program where
  /-- What a run with a command line does to the tree, started at a place, and how it ends: with an
  exit status, or with a failure to run. -/
  run : List String → Loc → Tree → Except Cause Int × Tree
  /-- Whether the program is only played.  The system has no part in its start then, and refuses
  neither its words nor its directory. -/
  isPlayed : Bool := false
  /-- Whether the program asks for a rebuild while it runs. -/
  asksForRebuild : Bool := false
  /-- What the clock shows at the end of the run, if the run sets it. -/
  clockAfter? : Option Int := none

/-- What can be seen of a command while it runs. -/
inductive Event where
  | printed (line : String)
  /-- A program was called with a command line, to be started in a directory. -/
  | started (command : List String) (directory : Path)
  /-- A renderer that is no program was asked for a site. -/
  | rendering (contentDir outputDir theme : Path)
  /-- A directory is being watched, with or without the ones below it. -/
  | watching (path : Path) (isRecursive : Bool)
  | watchStarted
  /-- The watch was told to end. -/
  | watchStopped
  | watchJoined
  /-- A web server listens on all addresses. -/
  | listening (portNumber : Int)
deriving DecidableEq, Repr

/-- The state that commands work on. -/
structure Host where
  tree : Tree
  /-- The directory in which commands are started. -/
  cwd : Path
  /-- The directories in which programs are looked for, as the search path lists them. -/
  searchPath : String := ""
  program : Program
  /-- The failures that wait for their calls. -/
  faults : List Fault := []
  /-- The time of day, in milliseconds. -/
  clock : Int := 0
  /-- The time that the next change of a file is stamped with. -/
  stamp : Int := 0
  /-- How far the preview has come. -/
  progress : Preview.Progress := {}
  /-- What could be seen so far, the last event first. -/
  events : List Event := []
  /-- The trees before the present one, the last one first. -/
  past : List Tree := []

/-- The failure that waits for a call on a path, if there is one. -/
def Host.waiting? (h : Host) (call : Call) (p : Path) : Option Cause :=
  (h.faults.find? fun f => f.call = call ∧ h.cwd.append f.path = h.cwd.append p).map Fault.cause

/-- A computation on a host that may fail. -/
abbrev Act := ExceptT Failure (StateM Host)

namespace Act

/-- Runs an act on a host. -/
def on {α : Type} (a : Act α) (h : Host) : Except Failure α × Host := StateT.run (ExceptT.run a) h

/-- Fails for a cause. -/
def fail {α : Type} (c : Cause) : Act α := throw (.cause c)

/-- The result of a computation without a host. -/
def lift {α : Type} (r : Except Cause α) : Act α :=
  match r with
  | .ok a => pure a
  | .error c => fail c

/-- Runs an act and gives its result, whether it failed or not. -/
def attempt {α : Type} (a : Act α) : Act (Except Failure α) := ExceptT.lift (ExceptT.run a)

/-- Gives back a result, or fails with it. -/
def resume {α : Type} (r : Except Failure α) : Act α :=
  match r with
  | .ok a => pure a
  | .error f => throw f

/-- Makes `t` the present tree. -/
def commit (t : Tree) : Act Unit := modify fun h => { h with tree := t, past := h.tree :: h.past }

/-- Notes what can be seen. -/
def record (e : Event) : Act Unit := modify fun h => { h with events := e :: h.events }

/-- Prints a line. -/
def print (line : String) : Act Unit := record (.printed line)

/-- Fails if a failure waits for a call on a path. -/
def heed (call : Call) (p : Path) : Act Unit := do
  match (← get).waiting? call p with
  | some c => fail c
  | none => pure ()

end Act

/-- The place of a path. -/
def Host.locate (h : Host) (p : Path) : Except Errno Loc := h.tree.locate h.cwd.names p

/-- Whether the host shows what a path is. -/
def Host.shows (h : Host) (p : Path) : Bool := (h.waiting? .stat p).isNone

/-- Whether a path holds the character that ends names. -/
def Path.hasNul (p : Path) : Bool := p.names.any fun n => n.toList.contains '\x00'

/-- What can be seen at a path.  A path that is too long is an error, and so is a failure that waits
for the look, unless it means that nothing is there. -/
def Host.look (h : Host) (p : Path) : Except Cause (Option Node) :=
  if p.hasNul then .ok none
  else
    match h.waiting? .stat p with
    | some c => if c.isAbsence then .ok none else .error c
    | none =>
      match h.locate p with
      | .ok k => .ok (h.tree.get? k)
      | .error e => if e = .nameTooLong then .error (e.on p) else .ok none

end DeckPress
