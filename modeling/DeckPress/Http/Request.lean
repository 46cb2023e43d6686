import DeckPress.Number.Literal

/-!
# Requests

A request is a line that names a method, a target and a version, then fields, then an empty line.

* `Request.read` reads a request, or says how it has to be refused.
* A request without a version asks in the oldest form of the protocol: its answer has no head, and
  neither has the refusal of a line whose version cannot be read.
* `Request.field?` looks a field up by its name, in whatever case it is written.
-/

namespace DeckPress.Http

/-- A field of a request or of an answer. -/
structure Field where
  name : Text
  value : Text
deriving DecidableEq, Repr

/-- A request. -/
structure Request where
  method : Text
  target : Text
  /-- Whether the answer has a head. -/
  wantsHead : Bool
  /-- The fields, in order. -/
  fields : List Field
deriving DecidableEq, Repr

/-- What was read when a request was expected. -/
inductive Incoming where
  /-- Nothing that would be answered. -/
  | nothing
  /-- Something that is refused with a status, with or without a head. -/
  | refused (status : Nat) (wantsHead : Bool)
  | request (request : Request)
deriving DecidableEq, Repr

namespace Request

/-- The longest line that is read, in bytes. -/
def lineLimit : Nat := 65536

/-- The most lines that fields and the empty line after them may take. -/
def fieldLimit : Nat := 100

/-- Reads a line with its end, or as much of it as the limit allows. -/
def line : Nat → Text → Text × Text
  | _, [] => ([], [])
  | 0, s => ([], s)
  | limit + 1, c :: s =>
    if c = '\n' then ([c], s)
    else
      let (l, rest) := line limit s
      (c :: l, rest)

/-- Reads the lines of the fields, up to an empty line or the end, if there are not too many of them
and none is too long. -/
def fieldLines? : Nat → Text → Option (List Text)
  | 0, _ => none
  | count + 1, s =>
    let (l, rest) := line (lineLimit + 1) s
    if lineLimit < l.length then none
    else if l = [] || l = ['\n'] || l = ['\r', '\n'] then some []
    else (fieldLines? count rest).map (l :: ·)

/-- The lines of a text, without their ends; a carriage return ends a line too. -/
def linesOf : Text → List Text
  | [] => [[]]
  | '\r' :: '\n' :: s => [] :: linesOf s
  | c :: s =>
    if c = '\r' || c = '\n' then [] :: linesOf s
    else
      match linesOf s with
      | l :: rest => (c :: l) :: rest
      | [] => [[c]]

/-- The mark of a line that names a sender and is no field. -/
def senderMark : Text := "From ".toList

/-- Whether a line goes on with the field before it. -/
def isContinuation (l : Text) : Bool := l.head? = some ' ' || l.head? = some '\t'

/-- Whether a line belongs to the fields: it goes on with a field, names a sender, or has a name of
visible characters and a colon. -/
def isFieldLine (l : Text) : Bool :=
  isContinuation l || senderMark.isPrefixOf l ||
    (l.dropWhile fun c => '!' ≤ c && c ≤ '~' && c ≠ ':').head? = some ':'

/-- The fields read so far, the last one first, and whether the last one may go on. -/
abbrev Reading := List Field × Bool

/-- Reads one more line of the fields. -/
def addLine : Reading → Text → Reading
  | (fields, isOpen), l =>
    if isContinuation l then
      match fields, isOpen with
      | f :: rest, true => ({ f with value := f.value ++ l } :: rest, true)
      | _, _ => (fields, false)
    else if senderMark.isPrefixOf l || l.head? = some ':' then (fields, false)
    else
      let name := l.takeWhile (· ≠ ':')
      (⟨name, l.drop (name.length + 1)⟩ :: fields, true)

/-- The fields that lines give; a line that cannot be read ends them. -/
def fieldsOf (lines : List Text) : List Field :=
  (((linesOf lines.flatten).takeWhile isFieldLine).foldl addLine ([], false)).1.reverse

/-- What the name of a version starts with. -/
def versionMark : Text := "HTTP/".toList

/-- The two numbers of a version.  They are read like any whole numbers, so that signs, underscores
and numerals of any length will do.  Later servers want up to ten digits, and then refuse some of
the requests that are answered here. -/
def version? (name : Text) : Option (Int × Int) :=
  match Text.pieces '.' (name.drop versionMark.length) with
  | [major, minor] => do
    if !versionMark.isPrefixOf name then none
    return (← Literal.whole? 10 major, ← Literal.whole? 10 minor)
  | _ => none

/-- Whether a version is one that is not spoken here. -/
def isTooNew (version : Int × Int) : Bool :=
  2 < version.1 || (version.1 = 2 && 0 ≤ version.2)

/-- The version that is asked for when none is named. -/
def oldestVersion : Text := "HTTP/0.9".toList

/-- A target that starts with several slashes could be taken for a host; it gets one. -/
def singleSlash (target : Text) : Text :=
  if "//".toList.isPrefixOf target then '/' :: target.dropWhile (· = '/') else target

/-- Reads the fields of a request whose line is well-formed. -/
def withFields (method target : Text) (wantsHead : Bool) (rest : Text) : Incoming :=
  match fieldLines? fieldLimit rest with
  | none => .refused 431 wantsHead
  | some lines => .request ⟨method, singleSlash target, wantsHead, fieldsOf lines⟩

/-- Reads what follows a line that has no version, or one that can be answered. -/
def ofWords (words : List Text) (wantsHead : Bool) (rest : Text) : Incoming :=
  match words with
  | [method, target] =>
    if method = "GET".toList then withFields method target wantsHead rest
    else .refused 400 wantsHead
  | [method, target, _] => withFields method target wantsHead rest
  | _ => .refused 400 wantsHead

/-- Reads a request. -/
def read (raw : Text) : Incoming :=
  let (l, rest) := line (lineLimit + 1) raw
  if lineLimit < l.length then .refused 414 true
  else
    match Text.words l with
    | [] => .nothing
    | a :: b :: c :: more =>
      let words := a :: b :: c :: more
      let version := words.getLast?.getD []
      match version? version with
      | none => .refused 400 false
      | some numbers =>
        if isTooNew numbers then .refused 505 false
        else ofWords words (version ≠ oldestVersion) rest
    | words => ofWords words false rest

/-- The value of the first field of a name. -/
def field? (r : Request) (name : String) : Option Text :=
  (r.fields.find? fun f => Text.lower f.name = Text.lower name.toList).map (·.value)

end Request

end DeckPress.Http
