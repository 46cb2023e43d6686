import DeckPress.Text.Basic

/-!
# Similar texts

Two texts are similar if much of one can be found in the other: the longest piece that they share,
and then, on both sides of it, the longest pieces again.

* `Similar.shared` counts the characters of these pieces.
* `Similar.closest` picks the candidates that are similar to a text.
-/

namespace DeckPress.Similar

/-- The number of characters that two texts share at their starts. -/
def common : Text → Text → Nat
  | c :: s, d :: t => if c = d then common s t + 1 else 0
  | _, _ => 0

/-- A piece that two texts share: where it starts in each, and its length. -/
structure Piece where
  /-- The start in the first text. -/
  left : Nat
  /-- The start in the second text. -/
  right : Nat
  length : Nat

/-- The longest piece that two texts share; of several, the first. -/
def longest (s t : Text) : Piece :=
  (List.range s.length).foldl (fun best i =>
    (List.range t.length).foldl (fun best j =>
      let n := common (s.drop i) (t.drop j)
      if best.length < n then ⟨i, j, n⟩ else best) best) ⟨0, 0, 0⟩

/-- The number of characters in the pieces that two texts share, cutting each at most `depth` times
in a row. -/
def sharedUpTo : Nat → Text → Text → Nat
  | 0, _, _ => 0
  | depth + 1, s, t =>
    let p := longest s t
    if p.length = 0 then 0
    else
      sharedUpTo depth (s.take p.left) (t.take p.right) + p.length +
        sharedUpTo depth (s.drop (p.left + p.length)) (t.drop (p.right + p.length))

/-- The number of characters in the pieces that two texts share. -/
def shared (s t : Text) : Nat := sharedUpTo s.length s t

/-- Whether at least three fifths of two texts are shared. -/
def isSimilar (s t : Text) : Bool := 3 * (s.length + t.length) ≤ 10 * shared s t

/-- How many similar candidates are picked at most. -/
def limit : Nat := 3

/-- Whether the candidate `s` comes before `t`: a larger part of it is shared, or, if the parts are
equal, it is the later one in the order of texts. -/
def isCloser (target s t : Text) : Bool :=
  let m := shared s target * (t.length + target.length)
  let n := shared t target * (s.length + target.length)
  n < m || n == m && (compare t s).isLE

/-- The candidates that are similar to a text, the closest ones if there are many, in the order of
texts. -/
def closest (target : String) (candidates : List String) : List String :=
  let similar := (candidates.map String.toList).filter (isSimilar · target.toList)
  let close := (similar.mergeSort (isCloser target.toList)).take limit
  (close.mergeSort fun s t => (compare s t).isLE).map String.ofList

example : isSimilar "--content-dir".toList "--output-d".toList = true := by decide +kernel

example : isSimilar "--theme".toList "--output-d".toList = false := by decide +kernel

end DeckPress.Similar
