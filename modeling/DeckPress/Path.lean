import DeckPress.Text.Basic

/-!
# Paths

A path is a root and the names that lead on from it.  Repeated slashes, a slash at the end and the
name `.` carry no meaning and are dropped when a path is read; `..` is kept, since only the file
tree can tell where it leads.  Exactly two slashes in front make a root of their own.

* `Path.ofString` and `toString` read and write a path.
* `p / q` goes on from `p` along `q`, unless `q` has a root.
* `Path.relativeTo?` takes away a leading path, name by name.
-/

namespace DeckPress

/-- Where a path starts. -/
inductive Path.Root where
  /-- At the working directory. -/
  | here
  /-- At the top of the file tree. -/
  | top
  /-- At the top of the file tree, written with two slashes. -/
  | doubled
deriving DecidableEq, Repr

/-- A place in a file tree, as it is written. -/
structure Path where
  root : Path.Root
  /-- The names on the way, outermost first. -/
  names : List String
deriving DecidableEq, Repr

namespace Path

/-- The text of a root. -/
def Root.text : Root → String
  | here => ""
  | top => "/"
  | doubled => "//"

/-- Whether a piece of a written path names something. -/
def isName (piece : List Char) : Bool := !(piece.isEmpty || piece == ['.'])

/-- The root that the slashes in front of a path give. -/
def rootOf : List Char → Root
  | '/' :: '/' :: '/' :: _ => .top
  | '/' :: '/' :: _ => .doubled
  | '/' :: _ => .top
  | _ => .here

/-- Reads a path. -/
def ofString (s : String) : Path where
  root := rootOf s.toList
  names := ((Text.pieces '/' s.toList).filter isName).map String.ofList

/-- Writes a path; the path with neither root nor names is `.`. -/
def toString (p : Path) : String :=
  if p.root = .here ∧ p.names = [] then "." else p.root.text ++ "/".intercalate p.names

instance : ToString Path := ⟨toString⟩

/-- Whether a path starts at the top of the tree. -/
def isAbsolute (p : Path) : Bool := p.root ≠ .here

/-- Goes on from `p` along `q`; a path with a root starts anew. -/
def append (p q : Path) : Path :=
  if q.isAbsolute then q else ⟨p.root, p.names ++ q.names⟩

instance : HDiv Path Path Path := ⟨append⟩

instance : HDiv Path String Path := ⟨fun p s => p.append (ofString s)⟩

/-- The entry `name` of the directory `p`. -/
def child (p : Path) (name : String) : Path := ⟨p.root, p.names ++ [name]⟩

/-- The last name, or the empty text if there is none. -/
def name (p : Path) : String := p.names.getLast?.getD ""

/-- The directory that holds a path; a path without names is its own parent. -/
def parent (p : Path) : Path := ⟨p.root, p.names.dropLast⟩

/-- The path with another last name, or `none` if it has no name to replace. -/
def withName? (p : Path) (name : String) : Option Path :=
  if p.names = [] then none else some (p.parent.child name)

/-- Whether `p` is `base` or goes on from it. -/
def IsBelow (p base : Path) : Prop := p.root = base.root ∧ base.names <+: p.names

instance (p base : Path) : Decidable (p.IsBelow base) :=
  inferInstanceAs (Decidable (_ ∧ _))

/-- The rest of `p` after `base`, or `none` if `p` does not go on from `base`. -/
def relativeTo? (p base : Path) : Option Path :=
  if p.IsBelow base then some ⟨.here, p.names.drop base.names.length⟩ else none

theorem isSome_relativeTo? (p base : Path) : (p.relativeTo? base).isSome ↔ p.IsBelow base := by
  simp only [relativeTo?]
  split <;> simp_all

@[simp] theorem names_child (p : Path) (n : String) : (p.child n).names = p.names ++ [n] := rfl

@[simp] theorem root_child (p : Path) (n : String) : (p.child n).root = p.root := rfl

@[simp] theorem parent_child (p : Path) (n : String) : (p.child n).parent = p := by
  simp [child, parent]

example : (ofString "/abs//x/./y/").toString = "/abs/x/y" := by cbv

end Path

end DeckPress
