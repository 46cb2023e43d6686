import DeckPress.Value.Basic

/-!
# The order of a set

A set of numbers is written in the order of a table in which each member has a place.  The place
follows from the mark of the member, and equal numbers have equal marks, whatever their type.

* `SetOrder.mark?` is the mark of a value, if it is a number.
* `SetOrder.arrange` puts the members of a set in the order of their places.
-/

namespace DeckPress.SetOrder

/-- The prime number modulo which marks are taken. -/
def modulus : Nat := Nat.pow 2 61 - 1

/-- The mark of the number `± m · 2 ^ e`.  Modulo the prime, the power with the exponent 61 is one,
so that every power is one with an exponent below that.  No mark is `-1`. -/
def markOf (negative : Bool) (m : Nat) (e : Int) : Int :=
  let r : Int := (m * Nat.pow 2 (e % 61).toNat % modulus : Nat)
  if negative then (if r = 1 then -2 else -r) else r

/-- The mark of an infinity. -/
def markOfInfinity (negative : Bool) : Int := if negative then -314159 else 314159

/-- The mark of a value, if it is a number. -/
def mark? : Value → Option Int
  | .bool b => some (if b then 1 else 0)
  | .int n => some (markOf (n < 0) n.natAbs 0)
  | .float (.finite negative m e) _ => some (markOf negative m e)
  | .float (.infinite negative) _ => some (markOfInfinity negative)
  | _ => none

/-- A table, by its places. -/
abbrev Table := Array (Option Value)

/-- The size of the table for a number of members: a power of two, and more than twice that number
if it is above four. -/
def tableSize (count : Nat) : Nat := if count < 5 then 8 else Nat.pow 2 (Nat.log2 (2 * count) + 1)

/-- How many places after one are tried before a place far from it, if the table has so many. -/
def reach : Nat := 9

/-- The first free place among those tried from a place on; `rest` is what of the mark has not been
used yet. -/
def freePlace (t : Table) : Nat → Nat → Nat → Nat
  | 0, place, _ => place
  | fuel + 1, place, rest =>
    let near := if place + reach < t.size then reach + 1 else 1
    match ((List.range near).map (place + ·)).find? fun p => (t.getD p none).isNone with
    | some p => p
    | none => freePlace t fuel ((5 * place + 1 + rest / 32) % t.size) (rest / 32)

/-- Puts a member with a mark into a table.  A mark counts modulo `2 ^ 64`; it is used up after
thirteen steps, and from then on every place is tried. -/
def put (t : Table) (v : Value) (mark : Int) : Table :=
  let rest := (mark % (Nat.pow 2 64 : Nat)).toNat
  t.setIfInBounds (freePlace t (t.size + 13) (rest % t.size) rest) (some v)

/-- Puts members in the order in which they are written.  If not all are numbers, they stay as they
are. -/
def arrange (members : List Value) : List Value :=
  match members.mapM mark? with
  | none => members
  | some marks =>
    let empty : Table := Array.replicate (tableSize members.length) none
    let t := (members.zip marks).foldl (fun t (v, mark) => put t v mark) empty
    t.toList.filterMap id

example : arrange [.int 3, .int 10, .int 2] = [.int 2, .int 10, .int 3] := by decide +kernel

end DeckPress.SetOrder
