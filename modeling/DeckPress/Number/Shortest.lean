import DeckPress.Number.Binary64

/-!
# Shortest decimals

The text of a floating-point value has the fewest digits that still read back as that value, and of
those the nearest to it; of two equally near ones the even one is taken.  Each count of digits from
one to seventeen gives a decimal grid; the value lies between two neighbouring points of it, and the
first grid with a point inside the interval of numbers that round to the value is taken.

* `Shortest.digits` finds the digits and the place of the point.
* `Shortest.text` writes them: positional from `0.0001` to below `10 ^ 16`, with at least one digit
  after the point, and with an exponent of two or more digits elsewhere.
-/

namespace DeckPress.Shortest

/-- The interval of numbers that round to `m · 2 ^ e`, in units of `2 ^ (e - 2)`: both ends, with
the value between them at `4 * m`.  Below a power of two the neighbours are closer. -/
def bounds (m : Nat) (e : Int) : Nat × Nat :=
  (if m = Nat.pow 2 52 && -1074 < e then 4 * m - 1 else 4 * m - 2, 4 * m + 2)

/-- Whether `± digits · 10 ^ k`, compared in units of `2 ^ (e - 2)`, lies within the bounds; the
ends belong to the interval exactly when `m` is even. -/
def inside (m : Nat) (e : Int) (num den : Nat) : Bool :=
  let (lo, hi) := bounds m e
  if m % 2 = 0 then lo * den ≤ num && num ≤ hi * den else lo * den < num && num < hi * den

/-- The number `a · 10 ^ k` in units of `2 ^ (e - 2)`, as a fraction. -/
def inUnits (a : Nat) (k e : Int) : Nat × Nat :=
  let (n, d) := if 0 ≤ k then (a * Nat.pow 10 k.toNat, 1) else (a, Nat.pow 10 (-k).toNat)
  Binary64.scale n d (2 - e)

/-- The place of the decimal point: the least `k` with `m · 2 ^ e < 10 ^ k`, sought upwards from
`start`. -/
def pointFrom (m : Nat) (e : Int) : Nat → Int → Int
  | 0, k => k
  | steps + 1, k =>
    let (n, d) := inUnits 1 k e
    if 4 * m * d < n then k else pointFrom m e steps (k + 1)

/-- The place of the decimal point of `m · 2 ^ e`. -/
def point (m : Nat) (e : Int) : Int :=
  pointFrom m e 8 (((m.log2 : Int) + e) * 301 / 1000 - 2)

/-- The point of the grid with `n` digits that is nearest to the value, if one reads back. -/
def onGrid (m : Nat) (e : Int) (p : Int) (n : Nat) : Option Nat :=
  let k := p - n
  let (num, den) := inUnits 1 k e
  let below := 4 * m * den / num
  let reads := fun a : Nat => let (x, d) := inUnits a k e; inside m e x d
  let gap := 2 * (4 * m * den - below * num)
  let nearer : Bool := gap < num || (gap = num && below % 2 = 0)
  match reads below, reads (below + 1) with
  | true, true => some (if nearer then below else below + 1)
  | true, false => some below
  | false, true => some (below + 1)
  | false, false => none

/-- The first grid, of `n` digits or more, that has a point which reads back, as that point and its
number of digits. -/
def search (m : Nat) (e : Int) (p : Int) : Nat → Nat → Nat × Nat
  | 0, n => ((onGrid m e p n).getD 0, n)
  | more + 1, n =>
    match onGrid m e p n with
    | some a => (a, n)
    | none => search m e p more (n + 1)

/-- The digits of a positive value `m · 2 ^ e`, without zeros at the end, and the place of the point
before the first of them. -/
def digits (m : Nat) (e : Int) : List Char × Int :=
  let p := point m e
  let (a, n) := search m e p 16 1
  let ds := Nat.toDigits 10 a
  let p := if n < ds.length then p + 1 else p
  ((ds.reverse.dropWhile (· == '0')).reverse, p)

/-- Writes digits with the point at place `p`. -/
def layout (ds : List Char) (p : Int) : String :=
  if -4 < p && p ≤ 16 then
    if p ≤ 0 then
      "0." ++ String.ofList (List.replicate (-p).toNat '0' ++ ds)
    else
      let whole := ds.take p.toNat ++ List.replicate (p.toNat - ds.length) '0'
      let rest := ds.drop p.toNat
      String.ofList whole ++ "." ++ String.ofList (if rest.isEmpty then ['0'] else rest)
  else
    let k := p - 1
    let exponent := Nat.toDigits 10 k.natAbs
    String.ofList (ds.take 1) ++ (if ds.length ≤ 1 then "" else "." ++ String.ofList (ds.drop 1)) ++
      (if k < 0 then "e-" else "e+") ++
      String.ofList (if exponent.length < 2 then '0' :: exponent else exponent)

/-- The text of a value. -/
def text : Binary64 → String
  | .nan => "nan"
  | .infinite s => if s then "-inf" else "inf"
  | .finite s m e =>
    let body := if m = 0 then "0.0" else let (ds, p) := digits m e; layout ds p
    if s then "-" ++ body else body

end DeckPress.Shortest
