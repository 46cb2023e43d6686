import DeckPress.Errno
import DeckPress.Path
import DeckPress.Tree.Basic

/-!
# File operations on a tree

The operations that a system offers on the files of a tree.  Each takes the place at which it works
and gives the changed tree, or the number of the error for which it changed nothing.

* `Tree.locate` finds the place of a path, walking from directory to directory.
* `Tree.readFile`, `Tree.writeFile`, `Tree.unlink`, `Tree.makeDirectory`, `Tree.entries`,
  `Tree.rename` and `Tree.removeTree` are the operations; `Tree.makeDirectories` makes a directory
  with all that are missing above it.
-/

namespace DeckPress.Tree

/-- The longest name, in bytes. -/
def nameLimit : Nat := 255

/-- The longest path, in bytes. -/
def pathLimit : Nat := 4095

/-- Walks along names from a place.  All but the last name have to be there, and to be directories
if more follows; the last one may be missing. -/
def walk (t : Tree) : Loc → List String → Except Errno Loc
  | here, [] => .ok here
  | here, name :: rest =>
    match t.get? here with
    | none => .error .noEntry
    | some (.file _) => .error .notADirectory
    | some .directory =>
      if nameLimit < name.utf8ByteSize then .error .nameTooLong
      else walk t (if name = ".." then here.dropLast else here ++ [name]) rest

/-- The place of a path; `cwd` is the place where relative paths start. -/
def locate (t : Tree) (cwd : Loc) (p : Path) : Except Errno Loc :=
  if pathLimit < p.toString.utf8ByteSize then .error .nameTooLong
  else t.walk (if p.isAbsolute then [] else cwd) p.names

/-- Reads a file. -/
def readFile (t : Tree) (k : Loc) : Except Errno File :=
  match t.get? k with
  | none => .error .noEntry
  | some .directory => .error .isADirectory
  | some (.file f) => .ok f

/-- Writes a file, new or not. -/
def writeFile (t : Tree) (k : Loc) (f : File) : Except Errno Tree :=
  if t.isDirectory k then .error .isADirectory else .ok (t.set k (.file f))

/-- Removes a file. -/
def unlink (t : Tree) (k : Loc) : Except Errno Tree :=
  match t.get? k with
  | none => .error .noEntry
  | some .directory => .error .isADirectory
  | some (.file _) => .ok (t.erase k)

/-- Makes a directory where nothing is yet. -/
def makeDirectory (t : Tree) (k : Loc) : Except Errno Tree :=
  if (t.get? k).isSome then .error .alreadyThere else .ok (t.set k .directory)

/-- The names of the entries of a directory. -/
def entries (t : Tree) (k : Loc) : Except Errno (List String) :=
  match t.get? k with
  | none => .error .noEntry
  | some (.file _) => .error .notADirectory
  | some .directory => .ok (t.names k)

/-- Enters a directory, as a program does that is started there. -/
def enter (t : Tree) (k : Loc) : Except Errno Unit :=
  match t.get? k with
  | none => .error .noEntry
  | some (.file _) => .error .notADirectory
  | some .directory => .ok ()

/-- Moves a file or directory.  A file may replace a file, and a directory an empty directory. -/
def renameAt (t : Tree) (source target : Loc) : Except Errno Tree :=
  match t.get? source with
  | none => .error .noEntry
  | some n =>
    if source = target then .ok t
    else if source <+: target then .error .invalid
    else if target <+: source then .error .notEmpty
    else
      match n, t.get? target with
      | .file _, some .directory => .error .isADirectory
      | .directory, some (.file _) => .error .notADirectory
      | .directory, some .directory =>
        if (t.names target).isEmpty then .ok (t.move source target) else .error .notEmpty
      | _, _ => .ok (t.move source target)

/-- Whether a path names an entry of a directory, so that the entry can be moved. -/
def hasEntryName (p : Path) : Bool := p.names.getLast?.any (· ≠ "..")

/-- Moves what is at one path to another one. -/
def rename (t : Tree) (cwd : Loc) (p q : Path) : Except Errno Tree := do
  let source ← t.locate cwd p
  let target ← t.locate cwd q
  if hasEntryName p && hasEntryName q then t.renameAt source target else throw .busy

/-- How far the removal of a directory came: to its end, or up to the given error, with the tree
that is left. -/
abbrev Removal := Except (Errno × Tree) Tree

/-- Removes a directory with all that is in it.  What is in it goes first; a directory that is named
by its way back up cannot be removed itself. -/
def removeTree (t : Tree) (cwd : Loc) (p : Path) : Removal := do
  let k ← (t.locate cwd p).mapError (·, t)
  match t.get? k with
  | none => throw (.noEntry, t)
  | some (.file _) => throw (.notADirectory, t)
  | some .directory =>
    if hasEntryName p then return t.eraseFrom k
    else
      let left := t.eraseBelow k
      match left.locate cwd p with
      | .error e => throw (e, left)
      | .ok _ => throw (.notEmpty, left)

/-- Makes the directory `p`, and with `depth` up to that many missing ones above it.  A directory
that is there already will do; `seen` tells whether the file system shows what a path is.  An error
comes with the path that it is about and the tree that is left. -/
def makeDirectoriesUpTo (t : Tree) (cwd : Loc) (seen : Path → Bool) :
    Nat → Path → Except (Errno × Path × Tree) Tree
  | depth, p =>
    match t.locate cwd p >>= t.makeDirectory with
    | .ok t' => .ok t'
    | .error e =>
      if e = .noEntry then
        match depth with
        | 0 => .error (e, p, t)
        | depth + 1 => do
          let t' ← makeDirectoriesUpTo t cwd seen depth p.parent
          match t'.locate cwd p >>= t'.makeDirectory with
          | .ok t'' => return t''
          | .error e => if e ≠ .noEntry && isThere t' p then return t' else throw (e, p, t')
      else if isThere t p then .ok t
      else .error (e, p, t)
where
  /-- Whether a path is seen to be a directory. -/
  isThere (t : Tree) (p : Path) : Bool :=
    seen p && match t.locate cwd p with
      | .ok k => t.isDirectory k
      | .error _ => false

/-- Makes the directory `p` and all that are missing above it. -/
def makeDirectories (t : Tree) (cwd : Loc) (seen : Path → Bool) (p : Path) :
    Except (Errno × Path × Tree) Tree :=
  t.makeDirectoriesUpTo cwd seen p.names.length p

end DeckPress.Tree
