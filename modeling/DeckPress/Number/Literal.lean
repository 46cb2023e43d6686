import DeckPress.Number.Binary64
import DeckPress.Text.Character
import DeckPress.Text.Quoted

/-!
# Numerals

Reading of whole and real numbers from text, and writing of whole numbers.  In reading, blanks
around a numeral are skipped, digits of any script count, and single underscores may stand between
digits.  A decimal numeral of more than 4300 digits is neither read nor written.

* `Literal.whole` reads a whole number to a base; bases 2, 8 and 16 allow their marks `0b`, `0o`,
  `0x` in front.
* `Literal.real` reads a real number, an infinity or `nan`.
* `Literal.decimal` writes a whole number.
-/

namespace DeckPress

/-- Why a number could not be made. -/
inductive NumberError where
  /-- A text, given in quotes, is no whole number to the base. -/
  | notWhole (base : Nat) (quoted : String)
  /-- A whole number has more digits than can be read. -/
  | tooManyDigits (count : Nat)
  /-- A whole number has more digits than can be written. -/
  | tooLongToWrite
  /-- A whole number is beyond all floating-point values. -/
  | tooLargeForReal
  /-- A text, given in quotes, is no real number. -/
  | notReal (quoted : String)
  /-- A numeral has no first character. -/
  | noFirstCharacter
  /-- A value of this kind is no number. -/
  | notNumeric (kind : String)
  /-- An infinity has no whole part. -/
  | wholePartOfInfinity
  /-- A value that is not a number has no whole part. -/
  | wholePartOfNan
  /-- A number is no code point. -/
  | notACodePoint
  /-- A number is too large to be looked at as a code point. -/
  | tooLargeForCodePoint
deriving DecidableEq, Repr

namespace NumberError

/-- The text that reports an error. -/
def message : NumberError → String
  | notWhole base quoted =>
    s!"invalid literal for int() with base {base}: " ++ String.ofList (quoted.toList.take 200)
  | tooManyDigits count =>
    "Exceeds the limit (4300 digits) for integer string conversion: value has " ++ toString count ++
      " digits; use sys.set_int_max_str_digits() to increase the limit"
  | tooLongToWrite =>
    "Exceeds the limit (4300 digits) for integer string conversion; " ++
      "use sys.set_int_max_str_digits() to increase the limit"
  | tooLargeForReal => "int too large to convert to float"
  | notReal quoted => "could not convert string to float: " ++ quoted
  | noFirstCharacter => "string index out of range"
  | notNumeric kind =>
    "int() argument must be a string, a bytes-like object or a real number, not " ++
      Quoted.encode kind
  | wholePartOfInfinity => "cannot convert float infinity to integer"
  | wholePartOfNan => "cannot convert float NaN to integer"
  | notACodePoint => "chr() arg not in range(0x110000)"
  | tooLargeForCodePoint => "Python int too large to convert to C int"

end NumberError

namespace Literal

/-- The most digits that a whole number may have in a base that is no power of two, in reading and
in writing. -/
def digitLimit : Nat := 4300

/-- The value of a digit in bases up to sixteen. -/
def digit? (base : Nat) (c : Char) : Option Nat :=
  ((Text.digitValue? c).or (Text.hexValue? c)).filter (· < base)

/-- What stands before the place that is being read in a run of digits. -/
inductive Before where
  | nothing
  | digit
  | underscore
deriving DecidableEq, Repr

/-- Reads on in a run of digits with single underscores between them, and gives their values and
what follows.  There is no result if an underscore does not stand between digits. -/
def digitRunAfter (base : Nat) : Before → List Char → Option (List Nat × List Char)
  | before, [] => if before = .underscore then none else some ([], [])
  | before, c :: s =>
    match digit? base c with
    | some d => (digitRunAfter base .digit s).map fun (ds, rest) => (d :: ds, rest)
    | none =>
      if c = '_' then if before = .digit then digitRunAfter base .underscore s else none
      else if before = .underscore then none
      else some ([], c :: s)

/-- Reads the run of digits at the start of a text. -/
def digitRun (base : Nat) (s : List Char) : Option (List Nat × List Char) :=
  digitRunAfter base .nothing s

/-- The number that digits write. -/
def ofDigits (base : Nat) (ds : List Nat) : Nat := ds.foldl (fun n d => n * base + d) 0

/-- Splits a sign off. -/
def sign : List Char → Bool × List Char
  | '-' :: s => (true, s)
  | '+' :: s => (false, s)
  | s => (false, s)

/-- The letter after the zero in the mark of a base. -/
def markOf : Nat → Option Char
  | 2 => some 'b'
  | 8 => some 'o'
  | 16 => some 'x'
  | _ => none

/-- Drops the mark of a base, and an underscore after it, if a digit follows. -/
def dropMark (base : Nat) (s : List Char) : List Char :=
  match s, markOf base with
  | '0' :: c :: rest, some k =>
    if c.toLower = k then
      match rest with
      | '_' :: rest' => rest'
      | _ => rest
    else s
  | _, _ => s

/-- Reads a whole number to a base; `quoted` is the text as a message shows it. -/
def whole (base : Nat) (quoted : String) (text : List Char) : Except NumberError Int := do
  let fault := NumberError.notWhole base quoted
  let (negative, s) := sign (Text.trimBlanks text)
  let some (ds, rest) := digitRun base (dropMark base s) | throw fault
  if ds.isEmpty then throw fault
  if (markOf base).isNone && digitLimit < ds.length then throw (.tooManyDigits ds.length)
  if !rest.isEmpty then throw fault
  let n : Int := ofDigits base ds
  return if negative then -n else n

/-- Reads a whole number to a base, if a text is one. -/
def whole? (base : Nat) (text : List Char) : Option Int := (whole base "" text).toOption

/-- Writes a whole number in decimal digits. -/
def decimal (n : Int) : Except NumberError String :=
  if Nat.pow 10 digitLimit ≤ n.natAbs then .error .tooLongToWrite else .ok (toString n)

/-- The words for values that are not finite. -/
def special? (s : List Char) : Option Binary64 :=
  match String.ofList (s.map Char.toLower) with
  | "inf" => some (.infinite false)
  | "infinity" => some (.infinite false)
  | "nan" => some .nan
  | _ => none

/-- Reads an exponent, or nothing at the end of the text. -/
def exponent? (s : List Char) : Option Int :=
  match s with
  | [] => some 0
  | c :: s' =>
    if c = 'e' || c = 'E' then
      let (negative, s'') := sign s'
      match digitRun 10 s'' with
      | some (d :: ds, []) =>
        let n : Int := ofDigits 10 (d :: ds)
        some (if negative then -n else n)
      | _ => none
    else none

/-- Reads a numeral without a sign: digits, a point with digits, an exponent, of which the point or
the digits before it may be missing. -/
def magnitude? (negative : Bool) (s : List Char) : Option Binary64 := do
  let (before, rest) ← digitRun 10 s
  let (after, rest) ← match rest with
    | '.' :: rest' => digitRun 10 rest'
    | _ => some ([], rest)
  if before.isEmpty && after.isEmpty then none
  else
    let k ← exponent? rest
    some (Binary64.ofDecimal negative (ofDigits 10 (before ++ after)) (k - after.length))

/-- Reads a real number. -/
def real (text : String) : Except NumberError Binary64 :=
  let (negative, s) := sign (Text.trimBlanks text.toList)
  match special? s with
  | some x => .ok (if negative then x.neg else x)
  | none =>
    match magnitude? negative s with
    | some x => .ok x
    | none => .error (.notReal (Quoted.encode text))

end Literal

end DeckPress
