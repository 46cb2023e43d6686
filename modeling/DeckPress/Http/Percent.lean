import DeckPress.Text.Character
import DeckPress.Text.CodePoint

/-!
# Percent encoding

In a web address a byte may be written as a percent sign and two hexadecimal digits.
`Percent.decode` undoes this: bytes that were written so, and the characters of ASCII between them,
are read together as UTF-8, in which halves of pairs are let through.  If there is a fault anywhere,
the replacement character stands for each fault, and for the bytes of each half.
-/

namespace DeckPress.Http.Percent

/-- Reads bytes as UTF-8, with the replacement character for each fault; `fuel` bounds the number of
faults. -/
def decodeLossy : Nat → List UInt8 → Text
  | 0, _ => []
  | fuel + 1, bytes =>
    match Utf8.decodeFrom 0 bytes with
    | .ok t => t
    | .error f =>
      ((Utf8.decodeFrom 0 (bytes.take f.start)).toOption.getD []) ++
        '\ufffd' ::
          match f.length? with
          | none => []
          | some n => decodeLossy fuel (bytes.drop (f.start + n))

/-- Reads bytes as a text with the replacement character for each fault. -/
def replacing (bytes : List UInt8) : List CodePoint :=
  CodePoint.ofText (decodeLossy (bytes.length + 1) bytes)

/-- The byte that two hexadecimal digits stand for. -/
def byte? (a b : Char) : Option UInt8 := do
  return UInt8.ofNat ((← Text.hexValue? a) * 16 + (← Text.hexValue? b))

/-- Decodes a text after some bytes, which are given in reverse; `read` reads bytes. -/
def decodeAfter (read : List UInt8 → Option (List CodePoint)) (reversed : List UInt8) :
    Text → Option (List CodePoint)
  | [] => read reversed.reverse
  | '%' :: a :: b :: s =>
    match byte? a b with
    | some byte => decodeAfter read (byte :: reversed) s
    | none => decodeAfter read (0x25 :: reversed) (a :: b :: s)
  | c :: s =>
    if c.toNat < 0x80 then decodeAfter read (UInt8.ofNat c.toNat :: reversed) s
    else do
      let before ← read reversed.reverse
      return before ++ .char c :: (← decodeAfter read [] s)

/-- Undoes percent encoding. -/
def decode (s : Text) : List CodePoint :=
  ((decodeAfter CodePoint.decode? [] s).or (decodeAfter (some ∘ replacing) [] s)).getD []

example : decode "a%2Fb%zz%".toList = CodePoint.ofText "a/b%zz%".toList := by decide +kernel

example : decode "%ED%A0%80%FF".toList = CodePoint.ofText "\ufffd\ufffd\ufffd\ufffd".toList := by
  decide +kernel

end DeckPress.Http.Percent
