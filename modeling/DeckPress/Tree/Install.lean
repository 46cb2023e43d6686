import DeckPress.Tree.Access

/-!
# Putting files into a tree

Programs and people put files into a tree by path.  `Tree.install` puts a file or an empty directory
at a path, making the directories above it that are missing; `Tree.installAll` puts many.
-/

namespace DeckPress.Tree

/-- An error of an operation on a path, with the path that it is about and the tree that is left. -/
abbrev Broken := Errno × Path × Tree

/-- Puts a node at a path.  A file takes the place of a file. -/
def install (t : Tree) (cwd : Loc) (p : Path) (n : Node) : Except Broken Tree := do
  match n with
  | .directory => t.makeDirectories cwd (fun _ => true) p
  | .file f =>
    let t' ← t.makeDirectories cwd (fun _ => true) p.parent
    (t'.locate cwd p >>= fun k => t'.writeFile k f).mapError (·, p, t')

/-- Puts nodes below a directory, in order. -/
def installAll (cwd : Loc) (directory : Path) : List (String × Node) → Tree → Except Broken Tree
  | [], t => .ok t
  | (name, n) :: rest, t => do installAll cwd directory rest (← t.install cwd (directory / name) n)

end DeckPress.Tree
