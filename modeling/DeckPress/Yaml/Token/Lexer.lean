import DeckPress.Text.Utf8
import DeckPress.Yaml.Token.Scalar

/-!
# From characters to tokens

`nextToken` is the token that follows, and `dropToken` takes it.  A mapping without a mark in front
of its keys is only noticed at the colon, so a place where a key may have begun is remembered, and
the tokens for the key and for the start of the mapping are put in there afterwards.  Such a key has
to lie on one line and to be at most 1024 characters long.  A token is therefore certain only when
no key can begin at it any more, and no more tokens are read than that takes.
-/

namespace DeckPress.Yaml

/-- The most characters between the start of a key and its colon. -/
def keyLimit : Nat := 1024

/-- Adds a token. -/
def emit (t : Token) : LexM Unit := modify fun c => { c with waiting := c.waiting ++ [t] }

/-- Puts tokens in after the first `n` of all. -/
def emitAt (n : Nat) (ts : List Token) : LexM Unit :=
  modify fun c =>
    let (before, after) := c.waiting.splitAt (n - c.taken)
    { c with waiting := before ++ ts ++ after }

/-- Whether the cursor stands between brackets or braces. -/
def inFlow : LexM Bool := return 0 < (← get).depth

/-- Says whether a key may begin next. -/
def allowKey (b : Bool) : LexM Unit := modify fun c => { c with keyAllowed := b }

/-- Skips blanks, comments and line breaks up to the next token. -/
def skipToToken : Nat → LexM Unit
  | 0 => return
  | fuel + 1 => do
    skipSpaces
    if ← looksAt '#' then discard <| takeWhile (!isBreak ·)
    if (← lineBreak).isSome then
      if !(← inFlow) then allowKey true
      skipToToken fuel

/-- Forgets the places of keys that can no longer be keys. -/
def dropStaleKeys : LexM Unit := do
  let c ← get
  let stale := fun (_, k) => k.line ≠ c.line || keyLimit < c.index - k.index
  if c.possibleKeys.any fun k => stale k && k.2.isRequired then malformed
  set { c with possibleKeys := c.possibleKeys.filter (!stale ·) }

/-- Forgets the place of a key at the present depth. -/
def dropPossibleKey : LexM Unit := do
  let c ← get
  if c.possibleKeys.any fun (d, k) => d == c.depth && k.isRequired then malformed
  set { c with possibleKeys := c.possibleKeys.filter (·.1 ≠ c.depth) }

/-- Remembers that a key may begin here. -/
def savePossibleKey : LexM Unit := do
  let c ← get
  if c.keyAllowed then
    dropPossibleKey
    let isRequired := c.depth == 0 && c.indent == (c.column : Int)
    let key : PossibleKey :=
      ⟨c.taken + c.waiting.length, isRequired, c.index, c.line, c.column⟩
    modify fun c => { c with possibleKeys := (c.depth, key) :: c.possibleKeys }

/-- Closes the collections by indentation that lie further to the right than a column. -/
def unwindIndent (column : Int) : LexM Unit := do
  if !(← inFlow) then
    let c ← get
    let closed := (c.indent :: c.outer).takeWhile (column < ·)
    match (c.indent :: c.outer).drop closed.length with
    | indent :: outer => set { c with indent, outer }
    | [] => set { c with indent := -1, outer := [] }
    closed.forM fun _ => emit .blockEnd

/-- Opens a collection at a column, if it lies further to the right than the innermost one. -/
def openIndent (column : Nat) : LexM Bool := do
  let c ← get
  if c.indent < (column : Int) then
    set { c with indent := (column : Int), outer := c.indent :: c.outer }
    return true
  else return false

/-- Reads a decimal number. -/
def decimal : LexM Int := do
  if !(← peek).any Char.isDigit then malformed
  let digits := (← get).rest.takeWhile Char.isDigit
  await (digits.length + 1)
  match Literal.whole 10 "" digits with
  | .ok n =>
    skip digits.length
    return n
  | .error e => throw (.number e)

/-- Reads the bytes of escapes in a tag, as the text that they encode. -/
def tagEscapes : Nat → List UInt8 → LexM (List Char)
  | 0, bytes => decoded bytes
  | fuel + 1, bytes => do
    if ← looksAt '%' then
      skip 1
      let n ← hexNumber 2
      skip 2
      tagEscapes fuel (bytes ++ [UInt8.ofNat n])
    else decoded bytes
where
  /-- The text of the bytes. -/
  decoded (bytes : List UInt8) : LexM (List Char) :=
    match Utf8.decode bytes with
    | .ok t => return t
    | .error _ => malformed

/-- Reads the characters of a tag. -/
def tagChars : Nat → List Char → LexM (List Char)
  | 0, text => return text
  | fuel + 1, text => do
    match ← peek with
    | some '%' => tagChars fuel (text ++ (← tagEscapes (← rounds) []))
    | some c =>
      if isTagChar c then
        skip 1
        tagChars fuel (text ++ [c])
      else return text
    | none => return text

/-- Reads the part of a tag that is not its handle; there has to be some. -/
def tagSuffix : LexM String := do
  let text ← tagChars (← rounds) []
  if text.isEmpty then malformed
  return String.ofList text

/-- Reads the handle of a tag: one mark, or a name between two. -/
def tagHandle : LexM String := do
  if !(← looksAt '!') then malformed
  skip 1
  if ← looksAt ' ' then return "!"
  let name ← takeWhile isNameChar
  if !(← looksAt '!') then malformed
  skip 1
  return String.ofList ('!' :: name ++ ['!'])

/-- Reads a directive. -/
def directive : LexM Token := do
  skip 1
  let name ← takeWhile isNameChar
  if name.isEmpty || !endsRun (← peek) then malformed
  let token ← match String.ofList name with
    | "YAML" => do
      skipSpaces
      let major ← decimal
      if !(← looksAt '.') then malformed
      skip 1
      discard decimal
      if !endsRun (← peek) then malformed
      pure (Token.version major)
    | "TAG" => do
      skipSpaces
      let handle ← tagHandle
      if !(← looksAt ' ') then malformed
      skipSpaces
      let lead ← tagSuffix
      if !endsRun (← peek) then malformed
      pure (Token.tagHandle handle lead)
    | _ => do
      discard <| takeWhile (!isBreak ·)
      pure Token.reserved
  skipToLineEnd
  return token

/-- Reads the name of a node, behind the mark in front of it. -/
def nodeName : LexM String := do
  skip 1
  let name ← takeWhile isNameChar
  if name.isEmpty then malformed
  let next ← peek
  if !(endsWord next || next.any ("?:,]\x7d%@\x60".toList.contains ·)) then malformed
  return String.ofList name

/-- Whether a tag, up to the next blank, has a second mark, so that it begins with a handle. -/
def hasHandle : LexM Bool := do
  let ahead := ((← get).rest.drop 1).takeWhile fun c => !(c == ' ' || isBreak c || c == '!')
  return (← peekAt (1 + ahead.length)) == some '!'

/-- Reads the tag of a node. -/
def nodeTag : LexM Token := do
  let second ← peekAt 1
  let token ←
    if second == some '<' then do
      skip 2
      let suffix ← tagSuffix
      if !(← looksAt '>') then malformed
      skip 1
      pure (Token.tag none suffix)
    else if endsWord second then do
      skip 1
      pure (Token.tag none "!")
    else if ← hasHandle then do
      let handle ← tagHandle
      pure (Token.tag (some handle) (← tagSuffix))
    else do
      skip 1
      pure (Token.tag (some "!") (← tagSuffix))
  if !endsRun (← peek) then malformed
  return token

/-- Ends all collections by indentation before a directive or a document mark. -/
def closeAll : LexM Unit := do
  unwindIndent (-1)
  dropPossibleKey
  allowKey false

/-- Takes a token of one character that opens a collection. -/
def openFlow (t : Token) : LexM Unit := do
  savePossibleKey
  modify fun c => { c with depth := c.depth + 1, keyAllowed := true }
  skip 1
  emit t

/-- Takes a token of one character that closes a collection.  A document in which more collections
are closed than were opened is malformed. -/
def closeFlow (t : Token) : LexM Unit := do
  dropPossibleKey
  let depth := (← get).depth
  modify fun c => { c with depth := c.depth - 1, keyAllowed := false }
  skip 1
  if depth == 0 then malformed
  emit t

/-- Takes the mark of a sequence entry. -/
def takeBlockEntry : LexM Unit := do
  if !(← inFlow) then
    if !(← get).keyAllowed then malformed
    if ← openIndent (← get).column then emit .blockSequenceStart
  allowKey true
  dropPossibleKey
  skip 1
  emit .blockEntry

/-- Takes the mark of a key. -/
def takeKey : LexM Unit := do
  if !(← inFlow) then
    if !(← get).keyAllowed then malformed
    if ← openIndent (← get).column then emit .blockMappingStart
  allowKey (!(← inFlow))
  dropPossibleKey
  skip 1
  emit .key

/-- Takes the mark of a value, and makes the key before it if there was no mark for that. -/
def takeValue : LexM Unit := do
  let c ← get
  match c.possibleKeys.find? (·.1 == c.depth) with
  | some (_, k) =>
    set { c with possibleKeys := c.possibleKeys.filter (·.1 ≠ c.depth) }
    let opens ← if c.depth == 0 then openIndent k.column else pure false
    emitAt k.tokens (if opens then [.blockMappingStart, .key] else [.key])
    allowKey false
  | none =>
    if c.depth == 0 then
      if !c.keyAllowed then malformed
      if ← openIndent c.column then emit .blockMappingStart
    allowKey (c.depth == 0)
    dropPossibleKey
  skip 1
  emit .value

/-- Takes a token that can be, or stand in front of, a key. -/
def takeContent (read : LexM Token) : LexM Unit := do
  savePossibleKey
  allowKey false
  emit (← read)

/-- Takes a block scalar. -/
def takeBlockScalar (isFolded : Bool) : LexM Unit := do
  allowKey true
  dropPossibleKey
  emit (← blockScalar isFolded)

/-- Whether a plain scalar can begin with a character that is not an indicator. -/
def isPlainStart (c : Char) : Bool :=
  !(endsWord (some c) || "-?:,[]{}#&*!|>'\"%@\x60".toList.contains c)

/-- Whether a plain scalar follows, of which the first character is given. -/
def startsPlain (c : Char) : LexM Bool := do
  if isPlainStart c then return true
  let next ← peekAt 1
  return !endsWord next && (c == '-' || (!(← inFlow) && (c == '?' || c == ':')))

/-- Whether a mark, given as the next character, stands on its own: inside brackets it always does
unless it is a hyphen, elsewhere a blank has to follow. -/
def standsAlone (c : Char) : LexM Bool := do
  if (← inFlow) && c != '-' then return true
  return endsWord (← peekAt 1)

/-- Whether a directive or a mark that starts or ends a document follows, of which the first
character is given. -/
def atDirectiveOrMark (c : Char) : LexM Bool := do
  if (← get).column != 0 then return false
  if c == '%' then return true
  if c == '-' || c == '.' then atDocumentMark else return false

/-- Takes a directive or a mark that starts or ends a document, of which the first character is
given. -/
def takeDirectiveOrMark (c : Char) : LexM Unit := do
  closeAll
  if c == '%' then emit (← directive)
  else
    skip 3
    emit (if c == '-' then .documentStart else .documentEnd)

/-- Takes the end of the document. -/
def takeEnd : LexM Unit := do
  unwindIndent (-1)
  dropPossibleKey
  emit .streamEnd
  modify fun c => { c with possibleKeys := [], isDone := true }

/-- Skips the mark for the order of bytes at the very start. -/
def skipOrderMark : LexM Unit := do
  if (← get).index == 0 && (← looksAt '\uFEFF') then skip 1

/-- Reads tokens up to the next one that is known for sure to follow those that were read. -/
def takeToken : LexM Unit := do
  skipOrderMark
  skipToToken (← rounds)
  dropStaleKeys
  unwindIndent (← get).column
  let flow ← inFlow
  match ← peek with
  | none => takeEnd
  | some ch =>
    if ← atDirectiveOrMark ch then takeDirectiveOrMark ch
    else if ch == '[' then openFlow .flowSequenceStart
    else if ch == '{' then openFlow .flowMappingStart
    else if ch == ']' then closeFlow .flowSequenceEnd
    else if ch == '}' then closeFlow .flowMappingEnd
    else if ch == ',' then
      allowKey true
      dropPossibleKey
      skip 1
      emit .flowEntry
    else if ch == '-' && (← standsAlone ch) then takeBlockEntry
    else if ch == '?' && (← standsAlone ch) then takeKey
    else if ch == ':' && (← standsAlone ch) then takeValue
    else if ch == '*' then takeContent (return .alias (← nodeName))
    else if ch == '&' then takeContent (return .anchor (← nodeName))
    else if ch == '!' then takeContent nodeTag
    else if ch == '|' && !flow then takeBlockScalar false
    else if ch == '>' && !flow then takeBlockScalar true
    else if ch == '\'' then takeContent (quotedScalar false)
    else if ch == '"' then takeContent (quotedScalar true)
    else if ← startsPlain ch then takeContent plainScalar
    else malformed

/-- Whether the next token is not certain yet: none waits, or a key may begin at it. -/
def isUncertain : LexM Bool := do
  let c ← get
  if c.isDone then return false
  if c.waiting.isEmpty then return true
  dropStaleKeys
  return (← get).possibleKeys.any fun (_, k) => k.tokens == c.taken

/-- Reads tokens until the next one is certain.  Every token but the last takes a character at
least. -/
def readAhead : Nat → LexM Unit
  | 0 => malformed
  | fuel + 1 => do
    if ← isUncertain then
      takeToken
      readAhead fuel

/-- The next token. -/
def nextToken : LexM Token := do
  readAhead (← rounds)
  match (← get).waiting with
  | t :: _ => return t
  | [] => malformed

/-- Takes the next token. -/
def dropToken : LexM Unit :=
  modify fun c => { c with waiting := c.waiting.tail, taken := c.taken + 1 }

end DeckPress.Yaml
