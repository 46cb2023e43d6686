import DeckPress.Text.Character

/-!
# Tags

A tag says what a node is.  A plain scalar without a tag is given one by its form: `Tag.ofPlain`
tries the forms of truth values, numbers, nothing, moments and a few marks, and takes a text if none
fits.
-/

namespace DeckPress.Yaml

/-- What a node is. -/
inductive Tag where
  | null
  | bool
  | int
  | float
  /-- Bytes, written in base 64. -/
  | binary
  | timestamp
  /-- A mapping as a sequence of pairs with different keys. -/
  | omap
  | pairs
  | set
  | str
  | seq
  | map
  /-- The key under which a mapping takes in others. -/
  | merge
  /-- The key of the value that stands for a whole mapping. -/
  | value
  /-- A tag without a meaning. -/
  | unknown
deriving DecidableEq, Repr

namespace Tag

/-- What all tags with a meaning begin with. -/
def lead : String := "tag:yaml.org,2002:"

/-- The tag with the given name. -/
def ofName (name : String) : Tag :=
  match (name.dropPrefix? lead).map (·.copy) with
  | some "null" => null
  | some "bool" => bool
  | some "int" => int
  | some "float" => float
  | some "binary" => binary
  | some "timestamp" => timestamp
  | some "omap" => omap
  | some "pairs" => pairs
  | some "set" => set
  | some "str" => str
  | some "seq" => seq
  | some "map" => map
  | some "merge" => merge
  | some "value" => value
  | _ => unknown

/-! ### The forms of plain scalars -/

/-- The words for nothing. -/
def nullWords : List String := ["~", "null", "Null", "NULL"]

/-- The words for truth values. -/
def boolWords : List String := [
  "yes", "Yes", "YES", "no", "No", "NO", "true", "True", "TRUE", "false", "False", "FALSE",
  "on", "On", "ON", "off", "Off", "OFF"]

/-- Drops a sign. -/
def unsigned : List Char → List Char
  | '+' :: s => s
  | '-' :: s => s
  | s => s

/-- Whether a character is a digit of a base or an underscore. -/
def isDigitOrGap (base : Nat) (c : Char) : Bool :=
  c == '_' || (Text.hexValue? c).any (· < base)

/-- The groups of a number to base sixty, behind its first digits: each a colon and one or two
digits below sixty.  Gives what follows the last of them, if there is one at least. -/
def sixtieths? : Nat → List Char → Option (List Char)
  | 0, _ => none
  | fuel + 1, s =>
    match s with
    | ':' :: rest =>
      let ds := rest.takeWhile Char.isDigit
      let rest' := rest.dropWhile Char.isDigit
      let fits := match ds with
        | [_] => true
        | [d, _] => d ≤ '5'
        | _ => false
      if !fits then none
      else if rest'.head? == some ':' then sixtieths? fuel rest'
      else some rest'
    | _ => none

/-- Whether an exponent with its sign, or nothing, makes up the rest. -/
def isExponent : List Char → Bool
  | [] => true
  | e :: sign :: ds =>
    (e == 'e' || e == 'E') && (sign == '+' || sign == '-') && !ds.isEmpty && ds.all Char.isDigit
  | _ => false

/-- Whether a scalar has the form of a whole number. -/
def isInt (s : List Char) : Bool :=
  match unsigned s with
  | ['0'] => true
  | '0' :: 'b' :: ds => !ds.isEmpty && ds.all (isDigitOrGap 2)
  | '0' :: 'x' :: ds => !ds.isEmpty && ds.all (isDigitOrGap 16)
  | '0' :: ds => ds.all (isDigitOrGap 8)
  | d :: ds =>
    d.isDigit &&
      (ds.all (isDigitOrGap 10) ||
        sixtieths? ds.length (ds.dropWhile (isDigitOrGap 10)) == some [])
  | [] => false

/-- Whether a scalar has the form of a floating-point number. -/
def isFloat (s : List Char) : Bool :=
  let number :=
    match unsigned s with
    | d :: ds =>
      d.isDigit &&
        match ds.dropWhile (isDigitOrGap 10) with
        | '.' :: rest => isExponent (rest.dropWhile (isDigitOrGap 10))
        | rest =>
          match sixtieths? rest.length rest with
          | some ('.' :: rest') => rest'.all (isDigitOrGap 10)
          | _ => false
    | [] => false
  let fraction :=
    match s with
    | '.' :: d :: ds => d.isDigit && isExponent (ds.dropWhile (isDigitOrGap 10))
    | _ => false
  number || fraction || ([".inf", ".Inf", ".INF"].contains (String.ofList (unsigned s))) ||
    ([".nan", ".NaN", ".NAN"].contains (String.ofList s))

/-- The fields of a moment, as they are written. -/
structure Stamp where
  year : List Char
  month : List Char
  day : List Char
  /-- Hour, minute and second, if there is a time of day. -/
  time? : Option (List Char × List Char × List Char) := none
  /-- The digits behind the seconds. -/
  fraction : List Char := []
  /-- Whether a zone is given at all. -/
  hasZone : Bool := false
  /-- The offset, if one is given: whether it is negative, its hours and its minutes. -/
  offset? : Option (Bool × List Char × List Char) := none
deriving Repr

/-- Splits off at least `least` and at most `most` digits. -/
def digits? (least most : Nat) (s : List Char) : Option (List Char × List Char) :=
  let ds := (s.take most).takeWhile Char.isDigit
  if ds.length < least then none else some (ds, s.drop ds.length)

/-- Drops one character. -/
def drop? (c : Char) : List Char → Option (List Char)
  | d :: s => if c = d then some s else none
  | [] => none

/-- Whether a character is a space or a tab. -/
def isGap (c : Char) : Bool := c == ' ' || c == '\t'

/-- Reads a zone that makes up the rest: nothing, the letter for universal time, or an offset. -/
def zone? (stamp : Stamp) (s : List Char) : Option Stamp :=
  match s with
  | [] => some stamp
  | _ =>
    match s.dropWhile isGap with
    | ['Z'] => some { stamp with hasZone := true }
    | c :: rest => do
      if !(c == '+' || c == '-') then none
      let (hours, rest) ← digits? 1 2 rest
      let minutes ← match rest with
        | [] => some []
        | _ => do
          let (minutes, rest) ← digits? 2 2 (← drop? ':' rest)
          if rest.isEmpty then some minutes else none
      some { stamp with hasZone := true, offset? := some (c == '-', hours, minutes) }
    | [] => none

/-- Reads the fields of a day or a moment.  Month and day may have one digit. -/
def stamp? (s : List Char) : Option Stamp := do
  let (year, s) ← digits? 4 4 s
  let (month, s) ← digits? 1 2 (← drop? '-' s)
  let (day, s) ← digits? 1 2 (← drop? '-' s)
  let stamp : Stamp := { year, month, day }
  match s with
  | [] => some stamp
  | c :: rest => do
    let s ←
      if c == 'T' || c == 't' then some rest
      else if isGap c then some (rest.dropWhile isGap)
      else none
    let (hour, s) ← digits? 1 2 s
    let (minute, s) ← digits? 2 2 (← drop? ':' s)
    let (second, s) ← digits? 2 2 (← drop? ':' s)
    let stamp := { stamp with time? := some (hour, minute, second) }
    match s with
    | '.' :: s =>
      zone? { stamp with fraction := s.takeWhile Char.isDigit } (s.dropWhile Char.isDigit)
    | _ => zone? stamp s

/-- Whether a scalar has the form of a day or a moment.  A day alone needs two digits throughout. -/
def isTimestamp (s : List Char) : Bool :=
  match stamp? s with
  | some t => t.time?.isSome || (t.month.length == 2 && t.day.length == 2)
  | none => false

/-- A scalar without one line feed at its end, which no form minds. -/
def withoutBreak (s : List Char) : List Char :=
  if s.getLast? == some '\n' then s.dropLast else s

/-- The tag that the form of a plain scalar gives it. -/
def ofPlain (text : String) : Tag :=
  let s := withoutBreak text.toList
  let word := String.ofList s
  if text.isEmpty then null
  else if boolWords.contains word then bool
  else if isFloat s then float
  else if isInt s then int
  else if word == "<<" then merge
  else if nullWords.contains word then null
  else if isTimestamp s then timestamp
  else if word == "=" then value
  else if ["!", "&", "*"].contains word then unknown
  else str

end Tag

end DeckPress.Yaml
