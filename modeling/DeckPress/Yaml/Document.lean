import DeckPress.Yaml.Graph.Reading
import DeckPress.Yaml.Scalar

/-!
# From nodes to a document

The value of a node is made once, however often the node is used.  That of a scalar is complete at
once.  A collection gets a number first and is filled later, in the order of the numbers; so it can
be referred to while it is not complete, and of several faults the one that is met first in this
order counts.

* `flatten` gives a mapping the entries of the mappings that it takes in.
* `documentOf` reads a whole document.
-/

namespace DeckPress.Yaml

/-- How far the values of a document have been made. -/
structure Making where
  graph : Graph
  /-- The values of the nodes so far, by the numbers of the nodes. -/
  values : Array (Option Value)
  /-- The collections so far; those that are not filled yet are empty. -/
  collections : Collections := #[]
  /-- The numbers of the nodes from which the collections are made. -/
  origins : Array Nat := #[]

/-- Making of values. -/
abbrev MakeM := StateT Making (Except Cause)

/-! ### Mappings that take in others -/

/-- Changes the graph. -/
def changeGraph (change : Graph → Graph) : MakeM Unit :=
  modify fun m => { m with graph := change m.graph }

/-- The entries that a mapping takes in from a node: those of a mapping, or of a sequence of
mappings, in which the last one comes first.  `flatten` is applied to each of the mappings before
its entries are looked at. -/
def takenIn (flatten : Nat → MakeM Unit) (n : Nat) : MakeM (List (Nat × Nat)) := do
  match (← get).graph.content n with
  | .scalar _ => throw .malformed
  | .mapping _ =>
    flatten n
    return (← get).graph.entries n
  | .sequence items =>
    let parts ← items.mapM fun item => do
      match (← get).graph.content item with
      | .mapping _ =>
        flatten item
        return (← get).graph.entries item
      | _ => throw .malformed
    return parts.reverse.flatten

/-- Goes through the entries of a mapping from a place on: an entry that takes in others is dropped,
and a key that is the mark for a value becomes a text like others.  The result are the entries that
were taken in before and now. -/
def dropMerges (flatten : Nat → MakeM Unit) (n : Nat) :
    Nat → Nat → List (Nat × Nat) → MakeM (List (Nat × Nat))
  | 0, _, taken => return taken
  | fuel + 1, place, taken => do
    let g := (← get).graph
    match (g.entries n)[place]? with
    | none => return taken
    | some (key, value) =>
      match g.tag key with
      | .merge =>
        changeGraph (·.setContent n (.mapping ((g.entries n).eraseIdx place)))
        let more ← takenIn flatten value
        dropMerges flatten n fuel place (taken ++ more)
      | .value =>
        changeGraph (·.setTag key .str)
        dropMerges flatten n fuel (place + 1) taken
      | _ => dropMerges flatten n fuel (place + 1) taken

/-- Gives a mapping the entries of the mappings that it takes in, in front of its own, so that its
own count.  No mapping is entered deeper than there are entries that could be dropped. -/
def flatten : Nat → Nat → MakeM Unit
  | 0, _ => return
  | depth + 1, n => do
    let steps := ((← get).graph.entries n).length + 1
    let taken ← dropMerges (flatten depth) n steps 0 []
    changeGraph fun g =>
      if taken.isEmpty then g else g.setContent n (.mapping (taken ++ g.entries n))

/-! ### Values -/

/-- The text that stands for a node: that of a scalar, or that of the value under the mark for
it. -/
def Graph.textOf (g : Graph) : Nat → Nat → Except Cause String
  | 0, _ => .error .endless
  | fuel + 1, n =>
    match g.content n with
    | .scalar text => .ok text
    | .sequence _ => .error .malformed
    | .mapping entries =>
      match entries.find? fun (k, _) => g.tag k == .value with
      | some (_, v) => g.textOf fuel v
      | none => .error .malformed

/-- The value of a node that is no collection. -/
def Graph.plainValue (g : Graph) (n : Nat) : Except Cause Value := do
  let text ← g.textOf (g.size + 1) n
  match g.tag n, g.content n with
  | .timestamp, .mapping _ => throw .listForText
  | tag, _ => scalarValue (n + 1) tag text

/-- Whether the values of a tag are collections. -/
def Tag.isCollection (tag : Tag) : Bool := [.seq, .map, .set, .omap, .pairs].contains tag

/-- Adds a collection that will be filled from a node. -/
def addCollection (n : Nat) : MakeM Value :=
  modifyGet fun m =>
    (.collection m.collections.size,
      { m with collections := m.collections.push (.list []), origins := m.origins.push n })

/-- The value of a node. -/
def valueOf (n : Nat) : MakeM Value := do
  let m ← get
  match m.values.getD n none with
  | some v => return v
  | none =>
    let v ← if (m.graph.tag n).isCollection then addCollection n
      else (m.graph.plainValue n : Except Cause Value)
    modify fun m => { m with values := m.values.setIfInBounds n (some v) }
    return v

/-- The pair of values that a mapping of one entry makes. -/
def pairOf (n : Nat) : MakeM (Value × Value) := do
  match (← get).graph.content n with
  | .mapping [(key, value)] => return (← valueOf key, ← valueOf value)
  | _ => throw .malformed

/-- The entries of a mapping, with those of the mappings that it takes in.  A collection is no
key. -/
def entriesOf (n : Nat) : MakeM (List (Value × Value)) := do
  let g := (← get).graph
  match g.content n with
  | .mapping _ =>
    flatten (g.entryCount + 1) n
    ((← get).graph.entries n).foldlM (fun entries (k, v) => do
      let key ← valueOf k
      if key.isCollection then throw .malformed
      return Value.insert entries key (← valueOf v)) []
  | _ => throw .malformed

/-- What a node makes of a collection. -/
def collectionOf (n : Nat) : MakeM Collection := do
  let node := (← get).graph.node n
  match node.tag, node.content with
  | .seq, .sequence items => return .list (← items.mapM valueOf)
  | .omap, .sequence items => return .pairs (← items.mapM pairOf)
  | .pairs, .sequence items => return .pairs (← items.mapM pairOf)
  | .set, _ => return .set ((← entriesOf n).map (·.1))
  | .map, _ => return .dict (← entriesOf n)
  | _, _ => throw .malformed

/-- Fills the collections from the one with a number on, those included that are added meanwhile. -/
def fillFrom : Nat → Nat → MakeM Unit
  | 0, _ => return
  | fuel + 1, number => do
    match (← get).origins[number]? with
    | none => return
    | some n =>
      let c ← collectionOf n
      modify fun m => { m with collections := m.collections.setIfInBounds number c }
      fillFrom fuel (number + 1)

/-- The value of a node, with all collections filled; there are no more of them than nodes. -/
def makeAll (n : Nat) : MakeM Value := do
  let v ← valueOf n
  fillFrom ((← get).graph.size + 1) 0
  return v

/-- Reads a document.  An empty one has the value nothing. -/
def documentOf (s : Source) : Except Cause Document := do
  match ← Graph.ofSource s with
  | (none, _) => return { value := .null }
  | (some top, graph) =>
    let (value, m) ← (makeAll top).run { graph, values := Array.replicate graph.size none }
    return { value, collections := m.collections }

end DeckPress.Yaml
