/-!
# Base 64

Reading of bytes that are written with four characters for three bytes.  Characters outside the
alphabet are skipped, and padding counts only where it can end the text.
-/

namespace DeckPress.Base64

/-- The value of a character of the alphabet. -/
def value? (c : Char) : Option Nat :=
  if 'A' ≤ c && c ≤ 'Z' then some (c.toNat - 'A'.toNat)
  else if 'a' ≤ c && c ≤ 'z' then some (c.toNat - 'a'.toNat + 26)
  else if '0' ≤ c && c ≤ '9' then some (c.toNat - '0'.toNat + 52)
  else if c == '+' then some 62
  else if c == '/' then some 63
  else none

/-- Reads on after the characters `group` of an unfinished group, at most three, and the number of
padding characters just before.  There is no result if the text ends within a group. -/
def decodeFrom : List Nat → Nat → List Char → Option (List UInt8)
  | group, _, [] => if group.isEmpty then some [] else none
  | group, pads, c :: s =>
    if c == '=' then
      if 2 ≤ group.length && 4 ≤ group.length + pads + 1 then
        -- The group ends here, and with it the text.
        match group with
        | [a, b] => some [byte (a * 4 + b / 16)]
        | [a, b, d] => some [byte (a * 4 + b / 16), byte (b % 16 * 16 + d / 4)]
        | _ => some []
      else decodeFrom group (if 2 ≤ group.length then pads + 1 else pads) s
    else
      match value? c, group with
      | none, _ => decodeFrom group pads s
      | some v, [a, b, d] =>
        (decodeFrom [] 0 s).map
          ([byte (a * 4 + b / 16), byte (b % 16 * 16 + d / 4), byte (d % 4 * 64 + v)] ++ ·)
      | some v, group => decodeFrom (group ++ [v]) 0 s
where
  /-- A number below 256 as a byte. -/
  byte (n : Nat) : UInt8 := UInt8.ofNat n

/-- Reads the bytes that a text stands for. -/
def decode? (s : List Char) : Option (List UInt8) := decodeFrom [] 0 s

example : decode? "ODA=".toList = some [56, 48] := by decide

end DeckPress.Base64
