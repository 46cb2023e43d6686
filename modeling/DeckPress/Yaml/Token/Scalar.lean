import DeckPress.Yaml.Token.Cursor

/-!
# Scalars

The four ways to write a scalar: plain, in single or double quotes, and as a block of lines that is
kept (`|`) or folded (`>`).  Each reader starts at the first character of its scalar and stops
behind the last one.  Every round of a loop but the last goes on by a character at least.

A text is made of characters, and half of a pair is none.  A document can name a half by its number
only; such an escape is refused where it stands, and what else could be done with a text that has no
bytes is not described.
-/

namespace DeckPress.Yaml

/-- The longest run of characters of a plain scalar without blanks. -/
def plainRun (inFlow : Bool) : List Char → List Char
  | [] => []
  | c :: rest =>
    if endsWord (some c) ||
        (c == ':' &&
          (endsWord rest.head? || (inFlow && rest.head?.any (",[]{}".toList.contains ·)))) ||
        (inFlow && ",?[]{}".toList.contains c) then []
    else c :: plainRun inFlow rest

/-- Takes spaces and line breaks up to the next text or a document mark; the result holds the
breaks, or nothing at such a mark. -/
def plainBreaks : Nat → List Char → LexM (Option (List Char))
  | 0, breaks => return some breaks
  | fuel + 1, breaks => do
    if ← looksAt ' ' then
      skip 1
      plainBreaks fuel breaks
    else
      match ← lineBreak with
      | some b =>
        if ← atDocumentMark then return none
        plainBreaks fuel (breaks ++ [b])
      | none => return some breaks

/-- What stands for the breaks of a folded line: a single line feed is a space, and the first of
several is dropped. -/
def folded (first : Char) (breaks : List Char) : List Char :=
  (if first ≠ '\n' then [first] else if breaks.isEmpty then [' '] else []) ++ breaks

/-- Takes the blanks after a run of a plain scalar, as the text that stands for them.  Nothing means
that the scalar ends here. -/
def plainBlanks : LexM (List Char) := do
  let spaces ← takeWhile (· == ' ')
  match ← lineBreak with
  | none => return spaces
  | some b =>
    modify fun c => { c with keyAllowed := true }
    if ← atDocumentMark then return []
    match ← plainBreaks (← rounds) [] with
    | none => return []
    | some breaks => return folded b breaks

/-- Reads on in a plain scalar, after some text and the blanks that follow it. -/
def plainFrom : Nat → List Char → List Char → LexM (List Char)
  | 0, text, _ => return text
  | fuel + 1, text, blanks => do
    if ← looksAt '#' then return text
    let run := plainRun (0 < (← get).depth) (← get).rest
    if (← peekAt run.length) == some ':' then await (run.length + 2)
    if run.isEmpty then return text
    modify fun c => { c with keyAllowed := false }
    skip run.length
    let text := text ++ blanks ++ run
    let blanks ← plainBlanks
    if blanks.isEmpty || (← looksAt '#') then return text
    let c ← get
    if c.depth == 0 && (c.column : Int) < c.indent + 1 then return text
    plainFrom fuel text blanks

/-- Reads a plain scalar. -/
def plainScalar : LexM Token := do
  let text ← plainFrom (← rounds) [] []
  return .scalar (String.ofList text) true

/-- The characters that a backslash and a letter stand for. -/
def shortEscape? : Char → Option Char
  | '0' => some '\x00'
  | 'a' => some '\x07'
  | 'b' => some '\x08'
  | 't' => some '\t'
  | '\t' => some '\t'
  | 'n' => some '\n'
  | 'v' => some '\x0B'
  | 'f' => some '\x0C'
  | 'r' => some '\r'
  | 'e' => some '\x1B'
  | ' ' => some ' '
  | '"' => some '"'
  | '\\' => some '\\'
  | '/' => some '/'
  | 'N' => some '\x85'
  | '_' => some '\xA0'
  | 'L' => some '\u2028'
  | 'P' => some '\u2029'
  | _ => none

/-- The number of digits of an escape that gives a code point. -/
def longEscape? : Char → Option Nat
  | 'x' => some 2
  | 'u' => some 4
  | 'U' => some 8
  | _ => none

/-- Takes blanks and the breaks of empty lines inside quotes. -/
def quotedBreaks : Nat → List Char → LexM (List Char)
  | 0, breaks => return breaks
  | fuel + 1, breaks => do
    if ← atDocumentMark then malformed
    discard <| takeWhile fun c => c == ' ' || c == '\t'
    match ← lineBreak with
    | some b => quotedBreaks fuel (breaks ++ [b])
    | none => return breaks

/-- Takes an escape, behind its backslash, as the text that it stands for. -/
def escaped : LexM (List Char) := do
  let some c ← peek | malformed
  match shortEscape? c, longEscape? c with
  | some d, _ => skip 1; return [d]
  | none, some n =>
    skip 1
    let code ← hexNumber n
    if 0x7FFFFFFF < code then throw (.number .tooLargeForCodePoint)
    if 0x10FFFF < code then throw (.number .notACodePoint)
    if 0xD800 ≤ code && code ≤ 0xDFFF then throw (.unpaired code 0 1)
    skip n
    return [Char.ofNat code]
  | none, none =>
    match ← lineBreak with
    | some _ => quotedBreaks (← rounds) []
    | none => malformed

/-- Whether a character ends a run between quotes. -/
def endsQuotedRun (c : Char) : Bool :=
  c == '\'' || c == '"' || c == '\\' || c == ' ' || c == '\t' || isBreak c

/-- Reads on between quotes, up to and with the closing one. -/
def quotedFrom (isDouble : Bool) : Nat → List Char → LexM (List Char)
  | 0, _ => malformed
  | fuel + 1, text => do
    match ← peek with
    | none => malformed
    | some '\'' =>
      if isDouble then
        skip 1
        quotedFrom isDouble fuel (text ++ ['\''])
      else if (← peekAt 1) == some '\'' then
        skip 2
        quotedFrom isDouble fuel (text ++ ['\''])
      else
        skip 1
        return text
    | some '"' =>
      skip 1
      if isDouble then return text else quotedFrom isDouble fuel (text ++ ['"'])
    | some '\\' =>
      skip 1
      if isDouble then quotedFrom isDouble fuel (text ++ (← escaped))
      else quotedFrom isDouble fuel (text ++ ['\\'])
    | some c =>
      if c == ' ' || c == '\t' || isBreak c then
        let blanks ← takeWhile fun c => c == ' ' || c == '\t'
        match ← lineBreak with
        | some b =>
          let breaks ← quotedBreaks (← rounds) []
          quotedFrom isDouble fuel (text ++ folded b breaks)
        | none => quotedFrom isDouble fuel (text ++ blanks)
      else quotedFrom isDouble fuel (text ++ (← takeWhile (!endsQuotedRun ·)))

/-- Reads a scalar in quotes. -/
def quotedScalar (isDouble : Bool) : LexM Token := do
  skip 1
  let text ← quotedFrom isDouble (← rounds) []
  return .scalar (String.ofList text) false

/-- What happens to the line breaks at the end of a block scalar. -/
inductive Chomping where
  /-- All are dropped. -/
  | strip
  /-- One is kept. -/
  | clip
  /-- All are kept. -/
  | keep
deriving DecidableEq, Repr

/-- Takes the mark for the breaks at the end, if it follows. -/
def chomping? : LexM (Option Chomping) := do
  if ← looksAt '+' then skip 1; return some .keep
  else if ← looksAt '-' then skip 1; return some .strip
  else return none

/-- Takes the digit that gives the indentation of a block scalar, if it follows. -/
def increment? : LexM (Option Nat) := do
  match ← peek with
  | some c =>
    if c.isDigit then
      if c == '0' then malformed
      skip 1
      return some (c.toNat - '0'.toNat)
    else return none
  | none => return none

/-- Takes the marks at the head of a block scalar, in either order. -/
def blockHeader : LexM (Chomping × Option Nat) := do
  let header ← match ← chomping? with
    | some c => pure (c, ← increment?)
    | none =>
      match ← increment? with
      | some n => pure ((← chomping?).getD .clip, some n)
      | none => pure (.clip, none)
  if !endsRun (← peek) then malformed
  skipToLineEnd
  return header

/-- Takes empty lines and the blanks in front of the first line of a block scalar, and gives the
breaks and the greatest column that was reached. -/
def blockIndentation : Nat → List Char → Nat → LexM (List Char × Nat)
  | 0, breaks, widest => return (breaks, widest)
  | fuel + 1, breaks, widest => do
    if ← looksAt ' ' then
      skip 1
      blockIndentation fuel breaks (max widest (← get).column)
    else
      match ← lineBreak with
      | some b => blockIndentation fuel (breaks ++ [b]) widest
      | none => return (breaks, widest)

/-- Skips the spaces in front of a line, up to a column. -/
def skipIndent (column : Nat) : LexM Unit := do
  let c ← get
  skip ((c.rest.take (column - c.column)).takeWhile (· == ' ')).length

/-- Takes empty lines between the lines of a block scalar. -/
def blockBreaks (column : Nat) : Nat → List Char → LexM (List Char)
  | 0, breaks => return breaks
  | fuel + 1, breaks => do
    skipIndent column
    match ← lineBreak with
    | some b => blockBreaks column fuel (breaks ++ [b])
    | none => return breaks

/-- Reads the lines of a block scalar, given the text so far and the breaks before the line at hand.
The result is the text, the last line break, and the breaks after it. -/
def blockLines (isFolded : Bool) (column : Nat) :
    Nat → List Char → List Char → LexM (List Char × List Char × List Char)
  | 0, text, breaks => return (text, [], breaks)
  | fuel + 1, text, breaks => do
    let startsBlank := (← peek).any fun c => c == ' ' || c == '\t'
    let line ← takeWhile (!isBreak ·)
    let text := text ++ breaks ++ line
    let ending := (← lineBreak).toList
    let breaks ← blockBreaks column (← rounds) []
    let next ← peek
    if (← get).column == column && next.isSome then
      let nextBlank := next.any fun c => c == ' ' || c == '\t'
      let glue :=
        if isFolded && ending == ['\n'] && !startsBlank && !nextBlank then
          if breaks.isEmpty then [' '] else []
        else ending
      blockLines isFolded column fuel (text ++ glue) breaks
    else return (text, ending, breaks)

/-- Reads a block scalar. -/
def blockScalar (isFolded : Bool) : LexM Token := do
  skip 1
  let (chomping, increment) ← blockHeader
  let least := max (((← get).indent + 1).toNat) 1
  let (breaks, column) ← match increment with
    | some n => do
      let column := least + n - 1
      pure (← blockBreaks column (← rounds) [], column)
    | none => do
      let (breaks, widest) ← blockIndentation (← rounds) [] 0
      pure (breaks, max least widest)
  let (text, ending, breaks) ←
    if (← get).column == column && (← peek).isSome then
      blockLines isFolded column (← rounds) [] breaks
    else pure ([], [], breaks)
  let tail := match chomping with
    | .strip => []
    | .clip => ending
    | .keep => ending ++ breaks
  return .scalar (String.ofList (text ++ tail)) false

end DeckPress.Yaml
