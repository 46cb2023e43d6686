import DeckPress.Failure
import DeckPress.Number.Binary64
import DeckPress.Yaml.Token.Basic

/-!
# The source of a document

The bytes of a document are decoded in blocks, and its characters become readable in portions.  A
fault in a block, or a character that may not occur, spoils only the portion in which it lies: what
stands in front of that portion can still be read, and what is wrong there comes first.

* `Source.ofBytes` gives the characters that can be read, and what is met behind them.
* All line ends are read as line feeds.
-/

namespace DeckPress.Yaml

/-- The characters of a document that can be read. -/
structure Source where
  text : Text
  /-- What is met by reading on, if that is not the end. -/
  fault? : Option Cause := none

namespace Source

/-- The number of characters in a portion. -/
def portion : Nat := 4096

/-- The least number of bytes in a block, unless the document ends before. -/
def leastBlock : Nat := 8192

/-- A text with all its line ends written as line feeds. -/
def withLineFeeds : Text → Text
  | [] => []
  | '\r' :: '\n' :: s => '\n' :: withLineFeeds s
  | '\r' :: s => '\n' :: withLineFeeds s
  | c :: s => c :: withLineFeeds s

/-- How far the bytes of a document have been decoded. -/
structure Decoding where
  /-- The bytes that follow. -/
  rest : List UInt8
  /-- Bytes that the next block goes on with. -/
  begun : List UInt8 := []
  /-- Whether the last character was a carriage return, of which a line feed could be a part. -/
  holdsReturn : Bool := false
  /-- The texts of the blocks so far, the last one first. -/
  texts : List Text := []
  /-- The number of characters so far. -/
  count : Nat := 0
  /-- The number of bytes for one character in the last block. -/
  ratio : Binary64 := Binary64.zero

/-- The number of characters that are wanted: as many as complete the portion at hand. -/
def Decoding.wanted (d : Decoding) : Nat := portion - d.count % portion

/-- The number of bytes in the next block: enough for the characters that are wanted, if those need
as many bytes as the last ones, and one byte each at least. -/
def Decoding.blockSize (d : Decoding) : Nat :=
  let least := Binary64.ofRatio false 1 1
  let ratio := if least.lt d.ratio then d.ratio else least
  let guess := (ratio.mul (Binary64.ofRatio false d.wanted 1)).truncate?.getD 0
  max leastBlock guess.toNat

/-- The decoding after a text was read from the bytes of a block. -/
def Decoding.take (d : Decoding) (size : Nat) (text : Text) (begun : List UInt8) : Decoding :=
  let text := if d.holdsReturn && !text.isEmpty then '\r' :: text else text
  let holdsReturn := if text.isEmpty then d.holdsReturn else text.getLast? == some '\r'
  let lines := withLineFeeds (if text.getLast? == some '\r' then text.dropLast else text)
  { rest := d.rest.drop size
    begun, holdsReturn
    texts := lines :: d.texts
    count := d.count + lines.length
    ratio := if lines.isEmpty then Binary64.zero else Binary64.ofRatio false size lines.length }

/-- Decodes blocks up to the end or the first fault. -/
def Decoding.run : Nat → Decoding → Decoding × Option Utf8.DecodeError
  | 0, d => (d, none)
  | fuel + 1, d =>
    if d.rest.isEmpty then
      match Utf8.decode d.begun with
      | .error e => (d, some e)
      | .ok _ =>
        let last := if d.holdsReturn then ['\n'] else []
        ({ d with texts := last :: d.texts, count := d.count + last.length }, none)
    else
      let block := d.rest.take d.blockSize
      match Utf8.decodeBlock (d.begun ++ block) with
      | .error e => (d, some e)
      | .ok (text, begun) => Decoding.run fuel (d.take block.length text begun)

/-- The number of characters before the portion in which the character at a place lies.  The first
two portions become readable together. -/
def portionStart (place : Nat) : Nat :=
  if place < 2 * portion then 0 else place - place % portion

/-- The source that readable portions make: a character that may not occur spoils its own. -/
def ofPortions (text : Text) (fault? : Option Cause) : Source :=
  let place := (text.takeWhile isAllowed).length
  if place < text.length then ⟨text.take (portionStart place), some .malformed⟩
  else ⟨text, fault?⟩

/-- The source that bytes make. -/
def ofBytes (bytes : List UInt8) : Source :=
  let (d, error?) := Decoding.run (bytes.length + 1) { rest := bytes }
  let text := d.texts.reverse.flatten
  match error? with
  | none => ofPortions text none
  | some e => ofPortions (text.take (portionStart d.count)) (some (.undecodable e))

example : (ofBytes [0x61, 0x0D, 0x0A, 0x0D]).text = ['a', '\n', '\n'] := by decide +kernel

end Source

end DeckPress.Yaml
