/-!
# Binary floating point

`Binary64` holds the values of the 64-bit binary format, with the finite ones written out as
`m · 2 ^ e`.  Every operation is exact arithmetic on integers followed by one rounding, so that its
result can be computed and reasoned about without machine numbers.

* `Binary64.ofRatio` rounds a fraction to the nearest value, a tie to the one with even `m`.
* `Binary64.add`, `Binary64.sub`, `Binary64.mul` round the exact result.
-/

namespace DeckPress

/-- A value of the 64-bit binary format. -/
inductive Binary64 where
  | nan
  /-- Beyond all finite values. -/
  | infinite (negative : Bool)
  /-- The number `m · 2 ^ e`, with a sign; zero is `m = 0`. -/
  | finite (negative : Bool) (m : Nat) (e : Int)
deriving DecidableEq, Repr

namespace Binary64

/-- The value zero. -/
def zero : Binary64 := .finite false 0 (-1074)

/-- The quotient of two numbers, rounded to the nearest whole number, a tie to the even one. -/
def divNearest (num den : Nat) : Nat :=
  let q := num / den
  let r := num % den
  if 2 * r < den then q
  else if den < 2 * r then q + 1
  else q + q % 2

/-- A fraction scaled by a power of two, as numerator and denominator. -/
def scale (num den : Nat) (k : Int) : Nat × Nat :=
  if 0 ≤ k then (num * Nat.pow 2 k.toNat, den) else (num, den * Nat.pow 2 (-k).toNat)

/-- The value nearest to `± num / den`, for `den` other than zero. -/
def ofRatio (negative : Bool) (num den : Nat) : Binary64 :=
  if num = 0 then .finite negative 0 (-1074)
  else
    -- The exponent that makes the whole part of the scaled fraction 53 bits long.
    let guess : Int := (num.log2 : Int) - den.log2 - 53
    let (n₀, d₀) := scale num den (-guess)
    let wanted := if Nat.pow 2 53 ≤ n₀ / d₀ then guess + 1 else guess
    let e := max wanted (-1074)
    let (n, d) := scale num den (-e)
    let m := divNearest n d
    let (m, e) := if m = Nat.pow 2 53 then (Nat.pow 2 52, e + 1) else (m, e)
    if 971 < e then .infinite negative else .finite negative m e

/-- The value nearest to `± m · 2 ^ e`. -/
def ofScaled (negative : Bool) (m : Nat) (e : Int) : Binary64 :=
  let (n, d) := scale m 1 e
  ofRatio negative n d

/-- The value nearest to `± m · 10 ^ k`.  Powers that are far out of range are not computed. -/
def ofDecimal (negative : Bool) (m : Nat) (k : Int) : Binary64 :=
  if m = 0 then .finite negative 0 (-1074)
  else
    let size := k + (Nat.log2 m : Int) * 301 / 1000
    if 400 < size then .infinite negative
    else if size < -400 then .finite negative 0 (-1074)
    else if 0 ≤ k then ofRatio negative (m * Nat.pow 10 k.toNat) 1
    else ofRatio negative m (Nat.pow 10 (-k).toNat)

/-- The value with the other sign. -/
def neg : Binary64 → Binary64
  | .nan => .nan
  | .infinite s => .infinite !s
  | .finite s m e => .finite (!s) m e

/-- The signed significand of a finite value at the exponent `e₀`, which is not above its own. -/
def significandAt (s : Bool) (m : Nat) (e e₀ : Int) : Int :=
  let a : Int := (m * Nat.pow 2 (e - e₀).toNat : Nat)
  if s then -a else a

/-- The sum, rounded. -/
def add : Binary64 → Binary64 → Binary64
  | .nan, _ => .nan
  | _, .nan => .nan
  | .infinite s, .infinite t => if s = t then .infinite s else .nan
  | .infinite s, _ => .infinite s
  | _, .infinite t => .infinite t
  | .finite s m e, .finite t n f =>
    let e₀ := min e f
    let a := significandAt s m e e₀ + significandAt t n f e₀
    if a = 0 then .finite (s && t) 0 (-1074) else ofScaled (a < 0) a.natAbs e₀

/-- The difference, rounded. -/
def sub (x y : Binary64) : Binary64 := x.add y.neg

/-- The product, rounded. -/
def mul : Binary64 → Binary64 → Binary64
  | .nan, _ => .nan
  | _, .nan => .nan
  | .infinite s, .infinite t => .infinite (s != t)
  | .infinite s, .finite t n _ => if n = 0 then .nan else .infinite (s != t)
  | .finite s m _, .infinite t => if m = 0 then .nan else .infinite (s != t)
  | .finite s m e, .finite t n f => ofScaled (s != t) (m * n) (e + f)

/-- The value nearest to a whole number, unless that is beyond all finite values. -/
def ofNat? (n : Nat) : Option Binary64 :=
  match ofRatio false n 1 with
  | .infinite _ => none
  | x => some x

/-- Whether `x` is less than `y`; no comparison with `nan` holds. -/
def lt : Binary64 → Binary64 → Bool
  | .nan, _ => false
  | _, .nan => false
  | .infinite s, .infinite t => s && !t
  | .infinite s, _ => s
  | _, .infinite t => !t
  | .finite s m e, .finite t n f =>
    let e₀ := min e f
    significandAt s m e e₀ < significandAt t n f e₀

/-- Whether two values compare as equal; `nan` equals nothing. -/
def eq : Binary64 → Binary64 → Bool
  | .nan, _ => false
  | _, .nan => false
  | .infinite s, .infinite t => s == t
  | .finite s m e, .finite t n f =>
    let e₀ := min e f
    significandAt s m e e₀ == significandAt t n f e₀
  | _, _ => false

/-- The whole part of a finite value, towards zero. -/
def truncate? : Binary64 → Option Int
  | .finite s m e =>
    let a : Int := if 0 ≤ e then (m * Nat.pow 2 e.toNat : Nat) else (m / Nat.pow 2 (-e).toNat : Nat)
    some (if s then -a else a)
  | _ => none

/-- Whether the value equals the whole number `n`. -/
def equalsInt (x : Binary64) (n : Int) : Bool :=
  match x with
  | .finite s m e =>
    let signed : Int := if s then -(m : Int) else m
    if 0 ≤ e then signed * (Nat.pow 2 e.toNat : Nat) == n
    else signed == n * (Nat.pow 2 (-e).toNat : Nat)
  | _ => false

end Binary64

end DeckPress
