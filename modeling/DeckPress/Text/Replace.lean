import DeckPress.Text.Basic

/-!
# Literal replacement

`Text.replace search replacement s` replaces every occurrence of `search` in `s`, scanning from the
left and never looking again at what it has replaced.  An empty `search` occurs before every
character and at the end.

* `Text.scan` is the scan itself, by recursion on the text; its counter is the number of characters
  that still belong to the occurrence last replaced.
-/

namespace DeckPress.Text

/-- Copies a text and puts `replacement` for each occurrence of a nonempty `search`.  The first
argument counts the characters of the current occurrence that are still to be passed over. -/
def scan (search replacement : Text) : Nat → Text → Text
  | _, [] => []
  | skip + 1, _ :: s => scan search replacement skip s
  | 0, c :: s =>
    if search.isPrefixOf (c :: s) then
      replacement ++ scan search replacement (search.length - 1) s
    else
      c :: scan search replacement 0 s

/-- Puts `piece` before every character and at the end. -/
def interleave (piece : Text) : Text → Text
  | [] => piece
  | c :: s => piece ++ c :: interleave piece s

/-- Replaces every occurrence of `search`, leftmost first and without overlaps. -/
def replace (search replacement s : Text) : Text :=
  if search.isEmpty then interleave replacement s else scan search replacement 0 s

example : replace "aa".toList "b".toList "aaaaa".toList = "bba".toList := by decide

example : replace [] "-".toList "ab".toList = "-a-b-".toList := by decide

end DeckPress.Text
