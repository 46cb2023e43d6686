import DeckPress.Yaml.Source

/-!
# Reading characters

A `Cursor` is a place in a document, together with all that decides which token may come next: the
depth of brackets and braces, the columns of the collections around it, whether a key may begin
here, and the places where one may have begun.  Tokens that were read wait in the cursor until they
are taken.

* `LexM` computes with a cursor and may find the document malformed.
* No more of a document is read than has to be looked at: `await` asks for so many characters, and
  meets what is wrong with the document if it comes before them.
* `takeWhile`, `lineBreak` and `skip` are the ways forward.
-/

namespace DeckPress.Yaml

/-- A place where a key may have begun. -/
structure PossibleKey where
  /-- The number of tokens before it. -/
  tokens : Nat
  /-- Whether nothing but a key can stand there. -/
  isRequired : Bool
  /-- The number of characters before it. -/
  index : Nat
  line : Nat
  column : Nat
deriving DecidableEq, Repr

/-- A place in a document. -/
structure Cursor where
  /-- The characters that follow. -/
  rest : List Char
  /-- The number of characters of the whole document. -/
  length : Nat
  /-- What is met behind them, if that is not the end. -/
  fault? : Option Cause := none
  /-- The number of characters before. -/
  index : Nat := 0
  /-- The number of lines before. -/
  line : Nat := 0
  /-- The number of characters before on the same line. -/
  column : Nat := 0
  /-- The number of brackets and braces that are open. -/
  depth : Nat := 0
  /-- The column of the innermost collection by indentation; -1 if there is none. -/
  indent : Int := -1
  /-- The columns of the collections around it. -/
  outer : List Int := []
  /-- Whether a key may begin here. -/
  keyAllowed : Bool := true
  /-- The places where a key may have begun, at most one for each depth. -/
  possibleKeys : List (Nat × PossibleKey) := []
  /-- The tokens that wait to be taken. -/
  waiting : List Token := []
  /-- The number of tokens that were taken. -/
  taken : Nat := 0
  /-- Whether the last token was read. -/
  isDone : Bool := false
deriving Repr

/-- The cursor at the start of a source. -/
def Cursor.ofSource (s : Source) : Cursor :=
  { rest := s.text, length := s.text.length, fault? := s.fault? }

/-- Reading with a cursor. -/
abbrev LexM := StateT Cursor (Except Cause)

/-- More rounds than any loop takes that goes on by a character in each round but the last ones. -/
def rounds : LexM Nat := return (← get).length + 3

/-- The document is malformed. -/
def malformed {α : Type} : LexM α := throw .malformed

/-- Asks for the next `n` characters, or as many as there are before the end. -/
def await (n : Nat) : LexM Unit := do
  let c ← get
  match c.fault? with
  | some fault => if (c.rest.take n).length < n then throw fault
  | none => return

/-- The place after the next character. -/
def Cursor.next (c : Cursor) : Cursor :=
  match c.rest with
  | [] => c
  | ch :: rest =>
    let c := { c with rest, index := c.index + 1 }
    if ch == '\r' && rest.head? == some '\n' then { c with column := c.column + 1 }
    else if isBreak ch then { c with line := c.line + 1, column := 0 }
    else if ch == '\uFEFF' then c
    else { c with column := c.column + 1 }

/-- The place after the next `n` characters. -/
def Cursor.skip : Nat → Cursor → Cursor
  | 0, c => c
  | n + 1, c => c.next.skip n

/-- Goes on by `n` characters, to one that can be looked at. -/
def skip (n : Nat) : LexM Unit := do
  await (n + 1)
  modify (Cursor.skip n)

/-- The character `n` places further on. -/
def peekAt (n : Nat) : LexM (Option Char) := do
  await (n + 1)
  return (← get).rest[n]?

/-- The next character. -/
def peek : LexM (Option Char) := peekAt 0

/-- Whether the next character is `c`. -/
def looksAt (c : Char) : LexM Bool := return (← peek) == some c

/-- Takes characters as long as they satisfy a condition. -/
def takeWhile (p : Char → Bool) : LexM (List Char) := do
  let taken := (← get).rest.takeWhile p
  skip taken.length
  return taken

/-- Skips spaces. -/
def skipSpaces : LexM Unit := discard <| takeWhile (· == ' ')

/-- Takes the end of a line, if there is one, as the character that stands for it in a text. -/
def lineBreak : LexM (Option Char) := do
  match ← peek with
  | some c =>
    if c == '\n' || c == '\r' || c == '\x85' then
      let isPair := c == '\r' && (← peekAt 1) == some '\n'
      skip (if isPair then 2 else 1)
      return some '\n'
    else if isBreak c then
      skip 1
      return some c
    else return none
  | none => return none

/-- Whether a mark that starts or ends a document follows. -/
def atDocumentMark : LexM Bool := do
  await 3
  let mark := (← get).rest.take 3
  if mark == ['-', '-', '-'] || mark == ['.', '.', '.'] then return endsWord (← peekAt 3)
  else return false

/-- Skips spaces and a comment, which have to reach to the end of the line. -/
def skipToLineEnd : LexM Unit := do
  skipSpaces
  if ← looksAt '#' then discard <| takeWhile (!isBreak ·)
  if !endsLine (← peek) then malformed
  discard lineBreak

/-- The number that the next `n` hexadecimal digits write. -/
def hexNumber (n : Nat) : LexM Nat := do
  let digits := (((← get).rest.take n).map Text.hexValue?).takeWhile Option.isSome
  await (if digits.length < n then digits.length + 1 else n)
  if digits.length < n then malformed
  return Literal.ofDigits 16 (digits.filterMap id)

end DeckPress.Yaml
