import DeckPress.Text.Utf8

/-!
# Code points that are no characters

Half of a pair of code units is a code point but no character, and a strict decoder refuses it.
Where such halves are let through, a text is a list of code points.

* `CodePoint.decode?` reads bytes in which a half is written like a character.
* `CodePoint.nameBytes` writes the name of a file: halves from U+DC80 to U+DCFF stand for single
  bytes from 0x80 on, and others cannot be written.
-/

namespace DeckPress

/-- A code point. -/
inductive CodePoint where
  | char (c : Char)
  /-- Half of a pair, by its code. -/
  | half (code : Nat)
deriving DecidableEq, Repr

namespace CodePoint

/-- The characters of a text as code points. -/
def ofText (t : Text) : List CodePoint := t.map char

/-- Whether a code point is half of a pair. -/
def isHalf : CodePoint → Bool
  | char _ => false
  | half _ => true

/-- The half of a pair that the first three bytes write, and what follows them. -/
def half? : List UInt8 → Option (CodePoint × List UInt8)
  | b₀ :: b₁ :: b₂ :: rest =>
    if b₀ = 0xED && 0xA0 ≤ b₁ && b₁ < 0xC0 && Utf8.isContinuation b₂ then
      some (half (0xD000 + Utf8.payload b₁ * 64 + Utf8.payload b₂), rest)
    else none
  | _ => none

/-- Reads bytes with at most `fuel` halves among them. -/
def decodeUpTo? : Nat → List UInt8 → Option (List CodePoint)
  | 0, bytes => (Utf8.decodeFrom 0 bytes).toOption.map ofText
  | fuel + 1, bytes =>
    match Utf8.decodeFrom 0 bytes with
    | .ok t => some (ofText t)
    | .error f => do
      let t ← (Utf8.decodeFrom 0 (bytes.take f.start)).toOption
      let (h, rest) ← half? (bytes.drop f.start)
      return ofText t ++ h :: (← decodeUpTo? fuel rest)

/-- Reads bytes. -/
def decode? (bytes : List UInt8) : Option (List CodePoint) := decodeUpTo? bytes.length bytes

/-- The byte that a half stands for in the name of a file. -/
def byte? : CodePoint → Option UInt8
  | char _ => none
  | half code => if 0xDC80 ≤ code && code ≤ 0xDCFF then some (UInt8.ofNat code) else none

/-- Whether a code point can be part of the name of a file. -/
def isWritable (p : CodePoint) : Bool := !p.isHalf || p.byte?.isSome

/-- The code points of a name that cannot be written: the place of the first of them, the place
after the halves that follow it, and its code. -/
def fault? (name : List CodePoint) : Option (Nat × Nat × Nat) :=
  let before := name.takeWhile isWritable
  match name.drop before.length with
  | half code :: rest =>
    some (before.length, before.length + 1 + (rest.takeWhile isHalf).length, code)
  | _ => none

/-- The bytes of a name that can be written. -/
def nameBytes (name : List CodePoint) : List UInt8 :=
  name.flatMap fun p => match p with
    | char c => Utf8.encode [c]
    | half _ => p.byte?.toList

/-- The name that code points write, if its bytes are a text. -/
def name? (name : List CodePoint) : Option String :=
  (Utf8.decode (nameBytes name)).toOption.map String.ofList

example : decode? [0x61, 0xED, 0xB2, 0x80] = some [char 'a', half 0xDC80] := by decide +kernel

end CodePoint

end DeckPress
