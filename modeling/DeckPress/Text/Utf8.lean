import DeckPress.Text.Basic

/-!
# UTF-8, strictly

`Utf8.decode` reads a whole byte sequence and accepts exactly the well-formed ones: shortest forms
only, no surrogates, nothing above U+10FFFF.  A failure says which bytes are at fault: from the
first byte of the broken sequence up to the longest part of it that could still have begun a
character.  `Utf8.encode` is the way back.
-/

namespace DeckPress.Utf8

/-- Why bytes could not be decoded. -/
structure DecodeError where
  /-- The bytes that were read. -/
  bytes : List UInt8
  /-- The position of the first byte at fault. -/
  start : Int
  /-- The position after the last byte at fault. -/
  stop : Int
  /-- What is wrong there. -/
  reason : String
deriving DecidableEq, Repr

/-- A character has bytes that cannot begin one. -/
def invalidStart : String := "invalid start byte"

/-- A byte does not continue the character before it. -/
def invalidContinuation : String := "invalid continuation byte"

/-- The input stops inside a character. -/
def unexpectedEnd : String := "unexpected end of data"

/-- Whether a byte is one of the later bytes of a character. -/
def isContinuation (b : UInt8) : Bool := 0x80 ≤ b && b < 0xC0

/-- The six bits that a later byte adds. -/
def payload (b : UInt8) : Nat := b.toNat % 64

/-- Whether `b₁` may follow the first byte `b₀` of a character of three or four bytes.  The bounds
keep out overlong forms, surrogates and what lies above U+10FFFF. -/
def mayFollow (b₀ b₁ : UInt8) : Bool :=
  isContinuation b₁ &&
    !((b₀ == 0xE0 && b₁ < 0xA0) || (b₀ == 0xED && 0xA0 ≤ b₁) ||
      (b₀ == 0xF0 && b₁ < 0x90) || (b₀ == 0xF4 && 0x90 ≤ b₁))

/-- Where and why decoding stopped: the number of bytes before the fault, the length of the fault
(`none` if it reaches to the end of the input) and the reason. -/
structure Fault where
  /-- The number of bytes before the fault. -/
  start : Nat
  /-- The number of bytes at fault, or `none` for all that are left. -/
  length? : Option Nat
  reason : String
deriving DecidableEq, Repr

/-- Decodes bytes of which the first has the position `pos`. -/
def decodeFrom (pos : Nat) : List UInt8 → Except Fault Text
  | [] => .ok []
  | b₀ :: s₀ =>
    if b₀ < 0x80 then
      (decodeFrom (pos + 1) s₀).map (Char.ofNat b₀.toNat :: ·)
    else if b₀ < 0xC2 || 0xF4 < b₀ then
      .error ⟨pos, some 1, invalidStart⟩
    else
      match s₀ with
      | [] => .error ⟨pos, none, unexpectedEnd⟩
      | b₁ :: s₁ =>
        if b₀ < 0xE0 then
          if isContinuation b₁ then
            (decodeFrom (pos + 2) s₁).map (Char.ofNat (b₀.toNat % 32 * 64 + payload b₁) :: ·)
          else
            .error ⟨pos, some 1, invalidContinuation⟩
        else if !mayFollow b₀ b₁ then
          .error ⟨pos, some 1, invalidContinuation⟩
        else
          match s₁ with
          | [] => .error ⟨pos, none, unexpectedEnd⟩
          | b₂ :: s₂ =>
            if !isContinuation b₂ then
              .error ⟨pos, some 2, invalidContinuation⟩
            else if b₀ < 0xF0 then
              (decodeFrom (pos + 3) s₂).map
                (Char.ofNat (b₀.toNat % 16 * 4096 + payload b₁ * 64 + payload b₂) :: ·)
            else
              match s₂ with
              | [] => .error ⟨pos, none, unexpectedEnd⟩
              | b₃ :: s₃ =>
                if !isContinuation b₃ then
                  .error ⟨pos, some 3, invalidContinuation⟩
                else
                  (decodeFrom (pos + 4) s₃).map
                    (Char.ofNat (b₀.toNat % 8 * 262144 + payload b₁ * 4096 + payload b₂ * 64 +
                      payload b₃) :: ·)

/-- The error that reports a fault in `bytes`. -/
def Fault.toError (f : Fault) (bytes : List UInt8) : DecodeError where
  bytes := bytes
  start := f.start
  stop := match f.length? with
    | some n => f.start + n
    | none => bytes.length
  reason := f.reason

/-- The text that the bytes encode. -/
def decode (bytes : List UInt8) : Except DecodeError Text :=
  match decodeFrom 0 bytes with
  | .ok t => .ok t
  | .error f => .error (f.toError bytes)

/-- The bytes of a text. -/
def encode (t : Text) : List UInt8 := t.flatMap String.utf8EncodeChar

/-- Whether bytes are the first two of the three that would write half of a pair. -/
def beginsHalf : List UInt8 → Bool
  | [b₀, b₁] => b₀ == 0xED && 0xA0 ≤ b₁ && b₁ < 0xC0
  | _ => false

/-- The text of a block of a stream and the bytes at its end that the next block goes on with: those
that begin a character, or half of a pair.  The positions in an error count from the start of the
block. -/
def decodeBlock (block : List UInt8) : Except DecodeError (Text × List UInt8) :=
  match decodeFrom 0 block with
  | .ok t => .ok (t, [])
  | .error f =>
    let begun := block.drop f.start
    match decodeFrom 0 (block.take f.start) with
    | .ok t =>
      if f.length?.isNone || beginsHalf begun then .ok (t, begun) else .error (f.toError block)
    | .error _ => .error (f.toError block)

example : decode [0x61, 0xE2, 0x82] = .error ⟨[0x61, 0xE2, 0x82], 1, 3, unexpectedEnd⟩ := rfl

end DeckPress.Utf8
