import DeckPress.Number.Literal
import DeckPress.Number.Shortest
import DeckPress.Text.Quoted
import DeckPress.Value.SetOrder

/-!
# Values as text and as numbers

A setting may be given as any value; where a text is needed, `Value.text` makes one: a text stands
for itself, days and moments are written in digits, and everything else as `Value.form` writes it,
with the texts inside in quotes.  Inside itself a collection is only hinted at, by dots.  Where a
whole number is needed, `Value.toWhole` reads one.
-/

namespace DeckPress.Value

/-- What separates the members of a collection. -/
def separator : String := ", "

/-- The form of a value that is no collection. -/
def plainForm : Value → Except NumberError String
  | null => .ok "None"
  | bool b => .ok (if b then "True" else "False")
  | int n => Literal.decimal n
  | float x _ => .ok (Shortest.text x)
  | str s => .ok (Quoted.encode s)
  | bytes b => .ok (Quoted.encodeBytes b)
  | day d => .ok d.form
  | moment t => .ok t.form
  | collection _ => .ok ""

/-- The form of an entry of a mapping. -/
def entryForm (form : Value → Except NumberError String) (key value : Value) :
    Except NumberError String := do
  return (← form key) ++ ": " ++ (← form value)

/-- The form of a pair. -/
def pairForm (form : Value → Except NumberError String) (first second : Value) :
    Except NumberError String := do
  return "(" ++ (← form first) ++ separator ++ (← form second) ++ ")"

/-- The form of a collection, given the form of what is in it. -/
def collectionForm (form : Value → Except NumberError String) :
    Collection → Except NumberError String
  | .list items => do return "[" ++ separator.intercalate (← items.mapM form) ++ "]"
  | .pairs items => do
    return "[" ++ separator.intercalate (← items.mapM fun (k, v) => pairForm form k v) ++ "]"
  | .set members => do
    if members.isEmpty then return "set()"
    else return "\x7b" ++ separator.intercalate (← (SetOrder.arrange members).mapM form) ++ "\x7d"
  | .dict entries => do
    let written ← entries.mapM fun (k, v) => entryForm form k v
    return "\x7b" ++ separator.intercalate written ++ "\x7d"

/-- What stands for a collection inside itself. -/
def hint : Collection → String
  | .dict _ => "\x7b...\x7d"
  | _ => "[...]"

/-- A value in the form in which it appears inside the collections with the numbers `around`; `fuel`
bounds how deep collections are nested. -/
def formInside (cs : Collections) : Nat → List Nat → Value → Except NumberError String
  | 0, _, _ => .ok ""
  | fuel + 1, around, v =>
    match v with
    | collection n =>
      match cs[n]? with
      | none => .ok ""
      | some c =>
        if around.contains n then .ok (hint c)
        else collectionForm (formInside cs fuel (n :: around)) c
    | v => plainForm v

/-- A value in the form in which it appears inside others.  Since no collection is written inside
itself, there are never more of them around a value than there are at all. -/
def form (cs : Collections) (v : Value) : Except NumberError String :=
  formInside cs (cs.size + 2) [] v

/-- A value as a text. -/
def text (cs : Collections) : Value → Except NumberError String
  | str s => .ok s
  | day d => .ok d.text
  | moment t => .ok t.text
  | v => v.form cs

/-- A value as a whole number. -/
def toWhole (cs : Collections) : Value → Except NumberError Int
  | bool b => .ok (if b then 1 else 0)
  | int n => .ok n
  | float x _ =>
    match x with
    | .nan => .error .wholePartOfNan
    | .infinite _ => .error .wholePartOfInfinity
    | x => .ok (x.truncate?.getD 0)
  | str s => Literal.whole 10 (Quoted.encode s) s.toList
  | bytes b => Literal.whole 10 (Quoted.encodeBytes b) (b.map fun c => asciiOr c)
  | v => .error (.notNumeric (v.typeName cs))
where
  /-- The character of a byte, or a character that is part of no numeral. -/
  asciiOr (c : UInt8) : Char := if c < 0x80 then Char.ofNat c.toNat else '?'

end DeckPress.Value
