/-!
# Texts

A text is the list of its characters.  `Text.pieces` cuts a text at a mark, and `Text.words` cuts it
at white space.
-/

namespace DeckPress

/-- A text, as the characters it holds. -/
abbrev Text := List Char

namespace Text

/-- The pieces of a text between the marks in it; there is one more of them than marks. -/
def pieces (mark : Char) (s : Text) : List Text :=
  s.foldr (fun c pieces => match pieces with
    | piece :: rest => if c = mark then [] :: piece :: rest else (c :: piece) :: rest
    | [] => [[c]]) [[]]

/-- Whether a character is white space: a blank, a line end or one of the separators of ASCII and of
Unicode. -/
def isSpace (c : Char) : Bool :=
  let n := c.toNat
  (0x09 ≤ n && n ≤ 0x0D) || (0x1C ≤ n && n ≤ 0x20) || n == 0x85 || n == 0xA0 || n == 0x1680 ||
    (0x2000 ≤ n && n ≤ 0x200A) || n == 0x2028 || n == 0x2029 || n == 0x202F || n == 0x205F ||
    n == 0x3000

/-- The words of a text, which white space separates. -/
def words (s : Text) : List Text :=
  ((s.foldr (fun c words => match words with
    | word :: rest => if isSpace c then [] :: word :: rest else (c :: word) :: rest
    | [] => [[c]]) [[]]).filter fun w => !w.isEmpty)

/-- A text with the letters of ASCII in lower case. -/
def lower (s : Text) : Text := s.map Char.toLower

/-- A text with the letters of ASCII in upper case. -/
def upper (s : Text) : Text := s.map Char.toUpper

example : pieces '/' "a//b".toList = ["a".toList, [], "b".toList] := by decide

example : words " a  b".toList = ["a".toList, "b".toList] := by decide

end Text

end DeckPress
