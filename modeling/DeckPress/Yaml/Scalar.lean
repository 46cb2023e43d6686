import DeckPress.Failure
import DeckPress.Text.Lower
import DeckPress.Value.Basic
import DeckPress.Yaml.Base64
import DeckPress.Yaml.Tag

/-!
# The values of scalars

What the text of a scalar stands for is decided by its tag: `scalarValue` reads numbers in all their
forms, truth values, days and moments, bytes, and texts.
-/

namespace DeckPress.Yaml

/-- A number without the underscores in it. -/
def withoutGaps (text : String) : Text := text.toList.filter (· ≠ '_')

/-- Splits the sign off a number, of which there has to be something. -/
def bare (number : Text) : Except NumberError (Bool × Text) :=
  match number with
  | [] => .error .noFirstCharacter
  | '-' :: s => .ok (true, s)
  | '+' :: s => .ok (false, s)
  | s => .ok (false, s)

/-- A whole number, read to a base. -/
def wholeOf (base : Nat) (s : List Char) : Except NumberError Int :=
  Literal.whole base (Quoted.encode (String.ofList s)) s

/-- Reads a whole number in any of its forms: binary, octal, hexadecimal, to base sixty, decimal. -/
def intOf (text : String) : Except NumberError Int := do
  let (negative, s) ← bare (withoutGaps text)
  let n ←
    match s with
    | ['0'] => pure 0
    | '0' :: 'b' :: ds => wholeOf 2 ds
    | '0' :: 'x' :: ds => wholeOf 16 ds
    | '0' :: _ => wholeOf 8 s
    | [] => throw .noFirstCharacter
    | _ =>
      if s.contains ':' then do
        let parts ← (Text.pieces ':' s).mapM (wholeOf 10)
        pure (parts.foldl (fun n part => n * 60 + part) 0)
      else wholeOf 10 s
  return if negative then -n else n

/-- Adds up the parts of a number to base sixty, the last one first; `unit` is what the part at hand
counts. -/
def sumSixtieths : Nat → Binary64 → List Binary64 → Except NumberError Binary64
  | _, sum, [] => .ok sum
  | unit, sum, part :: parts =>
    match Binary64.ofNat? unit with
    | some u => sumSixtieths (unit * 60) (sum.add (part.mul u)) parts
    | none => .error .tooLargeForReal

/-- The word for a value that is not a number. -/
def nanWord : Text := ".nan".toList

/-- Reads a floating-point number in any of its forms; its letters may be of either case. -/
def floatOf (text : String) : Except NumberError Binary64 := do
  let (negative, s) ← bare (Text.lowerCase (withoutGaps text))
  let x ←
    if s == ".inf".toList then pure (Binary64.infinite false)
    else if s == nanWord then pure Binary64.nan
    else if s.contains ':' then do
      let parts ← (Text.pieces ':' s).mapM fun part => Literal.real (String.ofList part)
      sumSixtieths 1 Binary64.zero parts.reverse
    else Literal.real (String.ofList s)
  return if negative then x.neg else x

/-- Whether a floating-point number is written by the word for what is not a number.  All that are
written so are one and the same. -/
def isNanWord (text : String) : Bool :=
  match bare (Text.lowerCase (withoutGaps text)) with
  | .ok (_, s) => s == nanWord
  | .error _ => false

/-- The number that digits write. -/
def numberOf (ds : List Char) : Nat := Literal.ofDigits 10 (ds.map fun c => c.toNat - '0'.toNat)

/-- Microseconds from the digits of a fraction, of which the first six count. -/
def microsOf (ds : List Char) : Nat :=
  let ds := ds.take 6
  numberOf (ds ++ List.replicate (6 - ds.length) '0')

/-- Reads a day or a moment. -/
def timestampOf (text : String) : Except Calendar.Error Value := do
  let some t := Tag.stamp? (Tag.withoutBreak text.toList) | throw .form
  let (y, m, d) := (numberOf t.year, numberOf t.month, numberOf t.day)
  match t.time? with
  | none => return .day (← Calendar.Day.of y m d)
  | some (hour, minute, second) =>
    let offset? : Option Int := match t.offset? with
      | some (negative, h, min) =>
        let o : Int := numberOf h * 3600 + numberOf min * 60
        some (if negative then -o else o)
      | none => if t.hasZone then some 0 else none
    return .moment (← Calendar.Moment.of y m d (numberOf hour) (numberOf minute) (numberOf second)
      (microsOf t.fraction) offset?)

/-- The truth value of a word, whatever its case. -/
def boolOf (text : String) : Except Cause Bool :=
  let word := String.ofList (Text.lowerCase text.toList)
  if ["yes", "true", "on"].contains word then .ok true
  else if ["no", "false", "off"].contains word then .ok false
  else .error (.missing word)

/-- The value of a scalar; `origin` tells what is not a number from others that are none. -/
def scalarValue (origin : Nat) (tag : Tag) (text : String) : Except Cause Value :=
  match tag with
  | .null => .ok .null
  | .bool => (boolOf text).map .bool
  | .int => ((intOf text).map .int).mapError .number
  | .float => do
    let x ← (floatOf text).mapError .number
    return .float x (if x = .nan && !isNanWord text then origin else 0)
  | .binary =>
    if text.toList.any (128 ≤ ·.toNat) then .error .malformed
    else match Base64.decode? text.toList with
      | some bytes => .ok (.bytes bytes)
      | none => .error .malformed
  | .timestamp => (timestampOf text).mapError .date
  | .str => .ok (.str text)
  | _ => .error .malformed

end DeckPress.Yaml
