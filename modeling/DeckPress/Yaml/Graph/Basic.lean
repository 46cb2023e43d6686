import DeckPress.Yaml.Tag

/-!
# The nodes of a document

A node is a scalar, a sequence of nodes, or a mapping between nodes, each with its tag.  A node that
was given a name can be used again, even inside itself, and stays one node then; so the nodes of a
document are numbered, and a node refers to others by their numbers.

* `Graph` holds the nodes of a document.
* `Graph.add` adds a node, and `Graph.setContent`, `Graph.setTag` change one.
-/

namespace DeckPress.Yaml

/-- What a node consists of. -/
inductive Content where
  | scalar (text : String)
  | sequence (items : List Nat)
  | mapping (entries : List (Nat × Nat))
deriving DecidableEq, Repr, Inhabited

/-- A node. -/
structure Node where
  tag : Tag
  content : Content
deriving DecidableEq, Repr

/-- A scalar that is left out. -/
def Node.absent : Node := ⟨.null, .scalar ""⟩

instance : Inhabited Node := ⟨.absent⟩

/-- The nodes of a document, by their numbers. -/
abbrev Graph := Array Node

namespace Graph

/-- The node with a number. -/
def node (g : Graph) (n : Nat) : Node := g.getD n .absent

/-- The tag of a node. -/
def tag (g : Graph) (n : Nat) : Tag := (g.node n).tag

/-- What a node consists of. -/
def content (g : Graph) (n : Nat) : Content := (g.node n).content

/-- The graph with one more node, and its number. -/
def add (g : Graph) (n : Node) : Nat × Graph := (g.size, g.push n)

/-- The graph with another content of a node. -/
def setContent (g : Graph) (n : Nat) (content : Content) : Graph :=
  g.modify n fun node => { node with content }

/-- The graph with another tag of a node. -/
def setTag (g : Graph) (n : Nat) (tag : Tag) : Graph := g.modify n fun node => { node with tag }

/-- The entries of a node that is a mapping. -/
def entries (g : Graph) (n : Nat) : List (Nat × Nat) :=
  match g.content n with
  | .mapping entries => entries
  | _ => []

/-- The number of entries of all mappings. -/
def entryCount (g : Graph) : Nat := (g.toList.map fun n => match n.content with
  | .mapping entries => entries.length
  | _ => 0).foldl Nat.add 0

end Graph

end DeckPress.Yaml
