import DeckPress.Text.Character
import DeckPress.Text.Printable

/-!
# Quoted text

A text is quoted so that it can stand inside a message: between single quotes, or between double
quotes if it holds single quotes and no double ones.  Backslash, the quote in use and characters
that cannot be shown are escaped, the latter by name (tab, line feed, carriage return) or by code
point with two, four or eight hexadecimal digits.

* `Quoted.encode` quotes a text, `Quoted.encodeBytes` a sequence of bytes.
-/

namespace DeckPress.Quoted

/-- The quote that goes around a text. -/
def mark (s : List Char) : Char :=
  if s.contains '\'' && !s.contains '"' then '"' else '\''

/-- The escape that gives a code point by number. -/
def byNumber (n : Nat) : List Char :=
  if n < 0x100 then '\\' :: 'x' :: Text.hexDigits 2 n
  else if n < 0x10000 then '\\' :: 'u' :: Text.hexDigits 4 n
  else '\\' :: 'U' :: Text.hexDigits 8 n

/-- The form of one character between the quotes `q`, where `shown` tells whether a character stands
for itself. -/
def escape (shown : Char → Bool) (q c : Char) : List Char :=
  if c = q || c = '\\' then ['\\', c]
  else if c = '\t' then ['\\', 't']
  else if c = '\n' then ['\\', 'n']
  else if c = '\r' then ['\\', 'r']
  else if shown c then [c]
  else byNumber c.toNat

/-- The characters of a text between quotes. -/
def encodeChars (shown : Char → Bool) (s : List Char) : List Char :=
  mark s :: s.flatMap (escape shown (mark s)) ++ [mark s]

/-- A text between quotes. -/
def encode (s : String) : String := String.ofList (encodeChars Text.isPrintable s.toList)

/-- Bytes between quotes, marked by a leading letter: visible ASCII stands for itself. -/
def encodeBytes (bytes : List UInt8) : String :=
  let s := bytes.map fun b => Char.ofNat b.toNat
  "b" ++ String.ofList (encodeChars (fun c => 0x20 ≤ c.toNat && c.toNat < 0x7F) s)

end DeckPress.Quoted
