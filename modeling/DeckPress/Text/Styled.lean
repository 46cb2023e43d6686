import DeckPress.Text.Basic

/-!
# Styled text

A terminal shows text in colours when codes stand in it: an escape, a bracket, numbers and a letter.
`Styled.coloured` puts codes around a text, and `Styled.plain` takes all codes out of one.
-/

namespace DeckPress.Styled

/-- The colours in use. -/
inductive Colour where
  | red
  | yellow
  | white
deriving DecidableEq, Repr

/-- The number of a colour. -/
def Colour.code : Colour → Nat
  | red => 31
  | yellow => 33
  | white => 37

/-- A text in a colour, in bold type or not. -/
def coloured (colour : Colour) (isBold : Bool) (s : String) : String :=
  s!"\x1b[{colour.code}m" ++ (if isBold then "\x1b[1m" else "") ++ s ++ "\x1b[0m"

/-- Whether a character may stand between the bracket and the letter of a code. -/
def isParameter (c : Char) : Bool := c = ';' || c = '?' || c.isDigit

/-- The length of the code at the start of a text, if there is one. -/
def codeLength? : Text → Option Nat
  | '\x1b' :: '[' :: s =>
    let n := (s.takeWhile isParameter).length
    if (s.drop n).head?.any Char.isAlpha then some (n + 3) else none
  | _ => none

/-- Takes the codes out of a text, of which the first characters still belong to a code. -/
def plainAfter : Nat → Text → Text
  | _, [] => []
  | skip + 1, _ :: s => plainAfter skip s
  | 0, c :: s =>
    match codeLength? (c :: s) with
    | some n => plainAfter (n - 1) s
    | none => c :: plainAfter 0 s

/-- A text without its codes. -/
def plain (s : String) : String := String.ofList (plainAfter 0 s.toList)

example : plain (coloured .red true "a[0m") = "a[0m" := by decide +kernel

end DeckPress.Styled
