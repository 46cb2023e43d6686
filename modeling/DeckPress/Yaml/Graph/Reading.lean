import DeckPress.Yaml.Graph.Basic
import DeckPress.Yaml.Token.Lexer

/-!
# From tokens to nodes

* `Graph.ofSource` reads the nodes of a document: the number of the outermost one, if there is any,
  and the graph of all.  A scalar that is left out is a node like others.
-/

namespace DeckPress.Yaml

/-- What is known while a document is read. -/
structure Reading where
  graph : Graph := #[]
  /-- The tags that handles stand for. -/
  handles : List (String × String) := []
  /-- The nodes that were given a name. -/
  anchors : List (String × Nat) := []
  /-- How many collections there are around what is being read. -/
  depth : Nat := 0

/-- Reading of tokens. -/
abbrev ReadM := StateT Reading LexM

/-- The next token. -/
def peekToken : ReadM Token := liftM nextToken

/-- Takes the next token. -/
def takeNext : ReadM Unit := liftM dropToken

/-- A document that has no such form. -/
def misplaced {α : Type} : ReadM α := throw .malformed

/-- Whether the next token is one of some. -/
def nextIs (ts : List Token) : ReadM Bool := return ts.contains (← peekToken)

/-- Takes a token that has to be there. -/
def expectToken (t : Token) : ReadM Unit := do
  if (← peekToken) ≠ t then misplaced
  takeNext

/-- Adds a node. -/
def addNode (n : Node) : ReadM Nat :=
  modifyGet fun r => let (number, graph) := r.graph.add n; (number, { r with graph })

/-- Adds a scalar that is left out. -/
def addAbsent : ReadM Nat := addNode .absent

/-- The handles that every document knows. -/
def standardHandles : List (String × String) := [("!", "!"), ("!!", Tag.lead)]

/-- The properties of a node. -/
structure Properties where
  anchor? : Option String := none
  tag? : Option String := none

/-- The name of a tag, with what its handle stands for. -/
def tagName (handle? : Option String) (suffix : String) : ReadM String := do
  match handle? with
  | none => return suffix
  | some h =>
    match (← get).handles.lookup h with
    | some lead => return lead ++ suffix
    | none => misplaced

/-- Reads a name and a tag, in either order. -/
def properties : ReadM Properties := do
  match ← peekToken with
  | .anchor name =>
    takeNext
    match ← peekToken with
    | .tag h s => takeNext; return ⟨some name, some (← tagName h s)⟩
    | _ => return ⟨some name, none⟩
  | .tag h s =>
    takeNext
    let anchor? ← match ← peekToken with
      | .anchor name => takeNext; pure (some name)
      | _ => pure none
    return ⟨anchor?, some (← tagName h s)⟩
  | _ => return {}

/-- The tag of a node: the one that is given, or else the one that its form has.  A lone mark asks
for the latter. -/
def Properties.tagOr (props : Properties) (form : Tag) : Tag :=
  match props.tag? with
  | none => form
  | some "!" => form
  | some name => Tag.ofName name

/-- Adds a node with properties.  A name can be given only once. -/
def addWith (props : Properties) (form : Tag) (content : Content) : ReadM Nat := do
  match props.anchor? with
  | none => addNode ⟨props.tagOr form, content⟩
  | some name =>
    if ((← get).anchors.lookup name).isSome then misplaced
    let number ← addNode ⟨props.tagOr form, content⟩
    modify fun r => { r with anchors := (name, number) :: r.anchors }
    return number

/-- Gives a node its content, once that is known. -/
def complete (number : Nat) (content : Content) : ReadM Nat := do
  modify fun r => { r with graph := r.graph.setContent number content }
  return number

/-- How many collections there may be around a node. -/
def deepest : Nat := 488

/-- Reads what is in a collection. -/
def inside {α : Type} (read : ReadM α) : ReadM α := do
  let depth := (← get).depth
  if depth = deepest then throw .endless
  modify fun r => { r with depth := depth + 1 }
  let content ← read
  modify fun r => { r with depth }
  return content

/-- Adds a node of which only the properties are there. -/
def addEmpty (props : Properties) : ReadM Nat := do
  if props.anchor?.isNone && props.tag?.isNone then misplaced
  addWith props .null (.scalar "")

mutual

/-- Reads a node.  The flags tell whether it may be a collection by indentation, and whether a
sequence need not be indented further than what is around it. -/
def readNode (block indentless : Bool) : Nat → ReadM Nat
  | 0 => misplaced
  | fuel + 1 => do
    if let .alias a := ← peekToken then
      takeNext
      match (← get).anchors.lookup a with
      | some n => return n
      | none => misplaced
    let props ← properties
    match ← peekToken with
    | .scalar text isPlain =>
      takeNext
      let form := if isPlain && props.tag?.isNone || props.tag? == some "!" then Tag.ofPlain text
        else .str
      addWith props form (.scalar text)
    | .flowSequenceStart =>
      let n ← addWith props .seq (.sequence [])
      takeNext
      complete n (.sequence (← inside (readFlowItems true fuel)))
    | .flowMappingStart =>
      let n ← addWith props .map (.mapping [])
      takeNext
      complete n (.mapping (← inside (readFlowEntries true fuel)))
    | .blockEntry =>
      if !indentless then addEmpty props
      else
        let n ← addWith props .seq (.sequence [])
        complete n (.sequence (← inside (readIndentlessItems fuel)))
    | .blockSequenceStart =>
      if !block then addEmpty props
      else
        let n ← addWith props .seq (.sequence [])
        takeNext
        complete n (.sequence (← inside (readBlockItems fuel)))
    | .blockMappingStart =>
      if !block then addEmpty props
      else
        let n ← addWith props .map (.mapping [])
        takeNext
        complete n (.mapping (← inside (readBlockEntries fuel)))
    | _ => addEmpty props

/-- Reads the entries of a sequence by indentation. -/
def readBlockItems : Nat → ReadM (List Nat)
  | 0 => misplaced
  | fuel + 1 => do
    match ← peekToken with
    | .blockEntry =>
      takeNext
      let item ←
        if ← nextIs [.blockEntry, .blockEnd] then addAbsent else readNode true false fuel
      return item :: (← readBlockItems fuel)
    | .blockEnd => takeNext; return []
    | _ => misplaced

/-- Reads the entries of a sequence that is not indented further than the mapping around it. -/
def readIndentlessItems : Nat → ReadM (List Nat)
  | 0 => misplaced
  | fuel + 1 => do
    match ← peekToken with
    | .blockEntry =>
      takeNext
      let item ←
        if ← nextIs [.blockEntry, .key, .value, .blockEnd] then addAbsent
        else readNode true false fuel
      return item :: (← readIndentlessItems fuel)
    | _ => return []

/-- Reads the entries of a mapping by indentation. -/
def readBlockEntries : Nat → ReadM (List (Nat × Nat))
  | 0 => misplaced
  | fuel + 1 => do
    match ← peekToken with
    | .key =>
      takeNext
      let key ← readBlockPart fuel
      let value ← if ← nextIs [.value] then takeNext; readBlockPart fuel else addAbsent
      return (key, value) :: (← readBlockEntries fuel)
    | .blockEnd => takeNext; return []
    | _ => misplaced

/-- Reads a key or a value of a mapping by indentation. -/
def readBlockPart : Nat → ReadM Nat
  | 0 => misplaced
  | fuel + 1 => do
    if ← nextIs [.key, .value, .blockEnd] then addAbsent
    else readNode true true fuel

/-- Reads the entries of a sequence in brackets.  A key and a value make a mapping of one entry. -/
def readFlowItems (isFirst : Bool) : Nat → ReadM (List Nat)
  | 0 => misplaced
  | fuel + 1 => do
    if ← nextIs [.flowSequenceEnd] then takeNext; return []
    if !isFirst then expectToken .flowEntry
    match ← peekToken with
    | .key =>
      let item ← addNode ⟨.map, .mapping []⟩
      takeNext
      let entry ← inside do
        let key ← readFlowPart [.value, .flowEntry, .flowSequenceEnd] fuel
        let value ←
          if ← nextIs [.value] then takeNext; readFlowPart [.flowEntry, .flowSequenceEnd] fuel
          else addAbsent
        return (key, value)
      let item ← complete item (.mapping [entry])
      return item :: (← readFlowItems false fuel)
    | .flowSequenceEnd => takeNext; return []
    | _ =>
      let item ← readNode false false fuel
      return item :: (← readFlowItems false fuel)

/-- Reads the entries of a mapping in braces.  A node without a value is a key. -/
def readFlowEntries (isFirst : Bool) : Nat → ReadM (List (Nat × Nat))
  | 0 => misplaced
  | fuel + 1 => do
    if ← nextIs [.flowMappingEnd] then takeNext; return []
    if !isFirst then expectToken .flowEntry
    match ← peekToken with
    | .key =>
      takeNext
      let key ← readFlowPart [.value, .flowEntry, .flowMappingEnd] fuel
      let value ←
        if ← nextIs [.value] then takeNext; readFlowPart [.flowEntry, .flowMappingEnd] fuel
        else addAbsent
      return (key, value) :: (← readFlowEntries false fuel)
    | .flowMappingEnd => takeNext; return []
    | _ =>
      let key ← readNode false false fuel
      let value ← addAbsent
      return (key, value) :: (← readFlowEntries false fuel)

/-- Reads a key or a value inside brackets or braces, unless one of the tokens that follow it is
there already. -/
def readFlowPart (followers : List Token) : Nat → ReadM Nat
  | 0 => misplaced
  | fuel + 1 => do
    if ← nextIs followers then addAbsent else readNode false false fuel

end

/-- Reads the directives in front of a document. -/
def readDirectives (hasVersion : Bool) (handles : List (String × String)) :
    Nat → ReadM (List (String × String))
  | 0 => misplaced
  | fuel + 1 => do
    match ← peekToken with
    | .version major =>
      takeNext
      if hasVersion || major ≠ 1 then misplaced
      readDirectives true handles fuel
    | .tagHandle h lead =>
      takeNext
      if (handles.lookup h).isSome then misplaced
      readDirectives hasVersion ((h, lead) :: handles) fuel
    | .reserved => takeNext; readDirectives hasVersion handles fuel
    | _ => return handles

/-- Whether the next token is a directive. -/
def atDirective : ReadM Bool := do
  match ← peekToken with
  | .version _ => return true
  | .tagHandle _ _ => return true
  | .reserved => return true
  | _ => return false

/-- Skips marks for the end of a document. -/
def skipEnds : Nat → ReadM Unit
  | 0 => return
  | fuel + 1 => do
    if ← nextIs [.documentEnd] then
      takeNext
      skipEnds fuel

/-- Reads the directives and the mark in front of a document. -/
def readStart (fuel : Nat) : ReadM Unit := do
  let handles ← readDirectives false [] fuel
  modify fun r => { r with handles := handles ++ standardHandles }
  expectToken .documentStart

/-- Reads the only document of the input. -/
def readDocument (fuel : Nat) : ReadM (Option Nat) := do
  if ← nextIs [.streamEnd] then return none
  let node ←
    if (← atDirective) || (← nextIs [.documentStart]) then do
      readStart fuel
      if (← atDirective) || (← nextIs [.documentStart, .documentEnd, .streamEnd]) then addAbsent
      else readNode true false fuel
    else do
      modify fun r => { r with handles := standardHandles }
      readNode true false fuel
  skipEnds fuel
  if !(← nextIs [.streamEnd]) then
    readStart fuel
    misplaced
  return some node

/-- Reads the nodes of a document: the number of the outermost one, and the graph of all.  Few
tokens come from one character, and few steps take one token. -/
def Graph.ofSource (s : Source) : Except Cause (Option Nat × Graph) := do
  let fuel := 16 * (s.text.length + 4)
  let ((node?, r), _) ← ((readDocument fuel).run {}).run (Cursor.ofSource s)
  return (node?, r.graph)

end DeckPress.Yaml
