/-!
# Tokens of a document

A document in YAML 1.1 is a sequence of tokens: marks for directives and documents, for the start
and end of collections, for their entries, and for the properties and the content of nodes.

The classes of characters that decide where a token ends are here too.  They are asked about an
optional character: `none` stands for the end of the document.
-/

namespace DeckPress.Yaml

/-- A token. -/
inductive Token where
  /-- The directive that names the version. -/
  | version (major : Int)
  /-- The directive that gives the tags which a handle stands for. -/
  | tagHandle (handle lead : String)
  /-- A directive that means nothing. -/
  | reserved
  | documentStart
  | documentEnd
  | streamEnd
  /-- The start of a sequence by indentation. -/
  | blockSequenceStart
  /-- The start of a mapping by indentation. -/
  | blockMappingStart
  /-- The end of a collection by indentation. -/
  | blockEnd
  /-- The start of a sequence in brackets. -/
  | flowSequenceStart
  /-- The end of a sequence in brackets. -/
  | flowSequenceEnd
  /-- The start of a mapping in braces. -/
  | flowMappingStart
  /-- The end of a mapping in braces. -/
  | flowMappingEnd
  /-- An entry of a sequence by indentation. -/
  | blockEntry
  /-- An entry of a collection in brackets or braces. -/
  | flowEntry
  | key
  | value
  /-- A node that was given a name before. -/
  | alias (name : String)
  | anchor (name : String)
  /-- The tag of a node: a suffix, and the handle in front of it if there is one. -/
  | tag (handle? : Option String) (suffix : String)
  /-- A scalar, with whether it stands without quotes. -/
  | scalar (text : String) (isPlain : Bool)
deriving DecidableEq, Repr

/-- Whether a character ends a line. -/
def isBreak (c : Char) : Bool :=
  c == '\n' || c == '\r' || c == '\x85' || c == '\u2028' || c == '\u2029'

/-- Whether a line ends here. -/
def endsLine (o : Option Char) : Bool := o.all isBreak

/-- Whether a line or a run of anything but spaces ends here. -/
def endsRun (o : Option Char) : Bool := o.all fun c => c == ' ' || isBreak c

/-- Whether a word ends here. -/
def endsWord (o : Option Char) : Bool := o.all fun c => c == ' ' || c == '\t' || isBreak c

/-- Whether a character can be part of a name. -/
def isNameChar (c : Char) : Bool := c.isAlphanum || c == '-' || c == '_'

/-- Whether a character can be part of a tag. -/
def isTagChar (c : Char) : Bool :=
  c.isAlphanum || "-;/?:@&=+$,_.!~*'()[]".toList.contains c

/-- Whether a character may occur in a document at all. -/
def isAllowed (c : Char) : Bool :=
  let n := c.toNat
  n == 0x09 || n == 0x0A || n == 0x0D || (0x20 ≤ n && n ≤ 0x7E) || n == 0x85 ||
    (0xA0 ≤ n && n ≤ 0xD7FF) || (0xE000 ≤ n && n ≤ 0xFFFD) || 0x10000 ≤ n

end DeckPress.Yaml
