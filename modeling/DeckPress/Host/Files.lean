import DeckPress.Host.Basic

/-!
# File operations on a host

The operations on files that builds are made of.  Each looks first for a failure that waits for it,
then for a path that no file can have, and then works on the tree of the host.  A failure names the
path that it is about.
-/

namespace DeckPress

/-- Why a directory was not made for which the system gave an error.  Unless something is missing on
the way to it, the error leads to a look whether the directory is there already; a failure of that
look takes the place of the error. -/
def Host.whyNotMade (h : Host) (e : Errno) (p : Path) : Cause :=
  match h.waiting? .stat p with
  | some c => if e = .noEntry || c.isAbsence then e.on p else c
  | none => e.on p

namespace Act

/-- Fails if no file can have the path. -/
def guardPath (p : Path) : Act Unit := if p.hasNul then fail .nulInPath else pure ()

/-- Changes the tree by an operation on a path. -/
def edit (p : Path) (change : Tree → Loc → Except Errno Tree) : Act Unit := do
  guardPath p
  let h ← get
  match h.locate p >>= change h.tree with
  | .ok t => commit t
  | .error e => fail (e.on p)

/-- Looks something up at a path. -/
def lookUp {α : Type} (p : Path) (find : Tree → Loc → Except Errno α) : Act α := do
  guardPath p
  let h ← get
  match h.locate p >>= find h.tree with
  | .ok a => pure a
  | .error e => fail (e.on p)

/-- What is at a path, or `none` if nothing can be seen there. -/
def probe (p : Path) : Act (Option Node) := do lift ((← get).look p)

/-- Whether there is anything at a path. -/
def isThere (p : Path) : Act Bool := return (← probe p).isSome

/-- Whether a path is a file. -/
def isFile (p : Path) : Act Bool := return (← probe p).any Node.isFile

/-- Whether a path is a directory. -/
def isDirectory (p : Path) : Act Bool := return (← probe p).any Node.isDirectory

/-- The paths that pass a test, in order. -/
def keep (test : Path → Act Bool) : List Path → Act (List Path)
  | [] => pure []
  | p :: ps => do
    let isKept ← test p
    let rest ← keep test ps
    return if isKept then p :: rest else rest

/-- The names of the entries of a directory. -/
def list (p : Path) : Act (List String) := do
  heed .list p
  lookUp p Tree.entries

/-- Opens a file and reads what it holds. -/
def openFile (p : Path) : Act File := lookUp p Tree.readFile

/-- The bytes of a page. -/
def readPage (p : Path) : Act (List UInt8) := do
  heed .read p
  return (← openFile p).bytes

/-- Writes the bytes of a page.  A page that is there already stays executable if it was. -/
def writePage (p : Path) (bytes : List UInt8) : Act Unit := do
  heed .write p
  let stamp := (← get).stamp
  edit p fun t k =>
    let isExecutable := match t.get? k with
      | some (.file f) => f.isExecutable
      | _ => false
    t.writeFile k ⟨bytes, stamp, isExecutable⟩
  modify fun h => { h with stamp := h.stamp + 1 }

/-- Removes a file. -/
def unlink (p : Path) : Act Unit := do
  heed .unlink p
  edit p Tree.unlink

/-- Moves what is at `p` to `q`. -/
def move (p q : Path) : Act Unit := do
  guardPath p
  guardPath q
  let h ← get
  match h.tree.rename h.cwd.names p q with
  | .ok t => commit t
  | .error e => fail (e.moving p q)

/-- Moves a page. -/
def rename (p q : Path) : Act Unit := do
  heed .rename p
  move p q

/-- Moves a new site to its place. -/
def replace (p q : Path) : Act Unit := do
  heed .replace p
  move p q

/-- Removes a directory with all that is in it. -/
def removeTree (p : Path) : Act Unit := do
  heed .removeTree p
  guardPath p
  let h ← get
  match h.tree.removeTree h.cwd.names p with
  | .ok t => commit t
  | .error (e, t) =>
    commit t
    if e = .notADirectory && h.locate p matches .ok _ then
      fail (.os (.numbered e e.text (some (.path p)) none))
    else fail (e.on p)

/-- Makes a directory and all that are missing above it. -/
def makeDirectories (p : Path) : Act Unit := do
  guardPath p
  let h ← get
  match h.tree.makeDirectories h.cwd.names h.shows p with
  | .ok t => commit t
  | .error (e, q, t) =>
    commit t
    fail (h.whyNotMade e q)

end Act

end DeckPress
