import Std.Data.ExtTreeMap

/-!
# File trees

A file tree maps places to what is there: files and directories.  A place is the list of names that
lead to it from the top; the top itself is always a directory.  Links, owners and permissions, but
for whether a file can be run, are left out: every path leads to at most one place, and what a system
would deny is a failure that waits at a path (`Host.faults`).

* `Tree.get?` is the view through which every operation is described: what `set`, `erase`,
  `eraseFrom` and `graft` do to it is stated in `DeckPress.Tree.Lemmas`.
-/

namespace DeckPress

/-- A place in a tree: the names that lead to it from the top. -/
abbrev Loc := List String

/-- A regular file. -/
structure File where
  /-- What the file holds. -/
  bytes : List UInt8
  /-- The time of the last change, in nanoseconds. -/
  modified : Int := 0
  /-- Whether the file may be run as a program. -/
  isExecutable : Bool := false
deriving DecidableEq, Repr

/-- What a place holds. -/
inductive Node where
  | file (file : File)
  /-- A directory; its entries are places of their own. -/
  | directory
deriving DecidableEq, Repr

namespace Node

/-- Whether the node is a file. -/
def isFile : Node → Bool
  | file _ => true
  | directory => false

/-- Whether the node is a directory. -/
def isDirectory : Node → Bool
  | file _ => false
  | directory => true

end Node

/-- A file tree. -/
structure Tree where
  /-- The nodes below the top. -/
  nodes : Std.ExtTreeMap Loc Node
deriving DecidableEq

namespace Tree

/-- The tree without any file. -/
def empty : Tree := ⟨∅⟩

instance : EmptyCollection Tree := ⟨empty⟩

instance : Inhabited Tree := ⟨empty⟩

/-- What is at a place. -/
def get? (t : Tree) (k : Loc) : Option Node :=
  if k = [] then some .directory else t.nodes[k]?

/-- Puts a node at a place below the top. -/
def set (t : Tree) (k : Loc) (n : Node) : Tree := ⟨t.nodes.insert k n⟩

/-- Takes away what is at a place, but nothing below it. -/
def erase (t : Tree) (k : Loc) : Tree := ⟨t.nodes.erase k⟩

/-- Takes away what is at a place and everything below it. -/
def eraseFrom (t : Tree) (k : Loc) : Tree := ⟨t.nodes.filter fun q _ => !k.isPrefixOf q⟩

/-- Takes away everything below a place, but not what is there. -/
def eraseBelow (t : Tree) (k : Loc) : Tree :=
  ⟨t.nodes.filter fun q _ => !k.isPrefixOf q || q == k⟩

/-- All nodes below the top, in the order of their places. -/
def toList (t : Tree) : List (Loc × Node) := t.nodes.toList

/-- The nodes at and below a place, with the names that lead on to them. -/
def branch (t : Tree) (k : Loc) : List (Loc × Node) :=
  t.toList.filterMap fun (q, n) => (k.isPrefixOf? q).map (·, n)

/-- Adds nodes at and below a place. -/
def graft (t : Tree) (k : Loc) (branch : List (Loc × Node)) : Tree :=
  ⟨t.nodes.insertMany (branch.map fun (q, n) => (k ++ q, n))⟩

/-- Moves what is at `source` and below it to `target`; what was at `target` is gone. -/
def move (t : Tree) (source target : Loc) : Tree :=
  ((t.eraseFrom source).eraseFrom target).graft target (t.branch source)

/-- The names of the entries of a directory, in order. -/
def names (t : Tree) (k : Loc) : List String :=
  (t.branch k).filterMap fun (q, _) => match q with
    | [name] => some name
    | _ => none

/-- Whether a place is a file. -/
def isFile (t : Tree) (k : Loc) : Bool := (t.get? k).any Node.isFile

/-- Whether a place is a directory. -/
def isDirectory (t : Tree) (k : Loc) : Bool := (t.get? k).any Node.isDirectory

end Tree

end DeckPress
