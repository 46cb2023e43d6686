import DeckPress.Calendar
import DeckPress.Number.Binary64

/-!
# Values of settings

Settings come from a document, so their values are whatever a document can hold.  A collection can
occur in many places of its document, even inside itself; so the collections of a document are
numbered, and a value refers to one by its number.

* `Value` is the type of values, `Collection` that of collections, and `Document` is a value with
  the collections that it refers to.
* `Value.isSameKey` tells when two values are the same key of a mapping.
* `Value.insert` is the insertion into a mapping that keeps its order.
-/

namespace DeckPress

/-- A value that a document can hold. -/
inductive Value where
  | null
  | bool (b : Bool)
  | int (n : Int)
  /-- A floating-point number.  What is not a number is told apart by its origin. -/
  | float (x : Binary64) (origin : Nat := 0)
  | str (s : String)
  /-- Bytes. -/
  | bytes (b : List UInt8)
  | day (d : Calendar.Day)
  | moment (t : Calendar.Moment)
  /-- A collection, by its number. -/
  | collection (number : Nat)
deriving DecidableEq, Repr, Inhabited

/-- A collection of values. -/
inductive Collection where
  | list (items : List Value)
  | pairs (items : List (Value × Value))
  /-- A set, in the order in which its members were given. -/
  | set (members : List Value)
  /-- A mapping, in the order in which its keys were first given. -/
  | dict (entries : List (Value × Value))
deriving DecidableEq, Repr, Inhabited

/-- The collections of a document, by their numbers. -/
abbrev Collections := Array Collection

/-- A document. -/
structure Document where
  value : Value
  /-- The collections that values in it refer to. -/
  collections : Collections := #[]
deriving DecidableEq, Repr, Inhabited

/-- The entries of a document that is a mapping. -/
def Document.entries? (d : Document) : Option (List (Value × Value)) :=
  match d.value with
  | .collection n =>
    match d.collections[n]? with
    | some (.dict entries) => some entries
    | _ => none
  | _ => none

/-- The name of the type of a collection. -/
def Collection.typeName : Collection → String
  | list _ => "list"
  | pairs _ => "list"
  | set _ => "set"
  | dict _ => "dict"

namespace Value

/-- Whether a value is a collection, and so no key of a mapping. -/
def isCollection : Value → Bool
  | collection _ => true
  | _ => false

/-- The name of the type of a value. -/
def typeName (cs : Collections) : Value → String
  | null => "NoneType"
  | bool _ => "bool"
  | int _ => "int"
  | float _ _ => "float"
  | str _ => "str"
  | bytes _ => "bytes"
  | day _ => "datetime.date"
  | moment _ => "datetime.datetime"
  | collection n => (cs[n]?.map Collection.typeName).getD "list"

/-- A truth value or whole number as a whole number. -/
def asInt? : Value → Option Int
  | bool b => some (if b then 1 else 0)
  | int n => some n
  | _ => none

/-- Whether two values are the same key.  Numbers are compared by what they count, whatever their
type, and what is not a number by its origin; collections are no keys. -/
def isSameKey (v w : Value) : Bool :=
  match v, w with
  | null, null => true
  | float x i, float y j => x.eq y || (x == .nan && y == .nan && i == j)
  | float x _, w => w.asInt?.any x.equalsInt
  | v, float y _ => v.asInt?.any y.equalsInt
  | str s, str t => s == t
  | bytes a, bytes b => a == b
  | day d, day e => d == e
  | moment s, moment t => s.same t
  | v, w =>
    match v.asInt?, w.asInt? with
    | some m, some n => m == n
    | _, _ => false

/-- Sets a key of a mapping.  A key that is there already keeps its place and its form. -/
def insert (entries : List (Value × Value)) (key value : Value) : List (Value × Value) :=
  match entries with
  | [] => [(key, value)]
  | (k, v) :: rest =>
    if k.isSameKey key then (k, value) :: rest else (k, v) :: insert rest key value

/-- Sets many keys of a mapping, in order. -/
def insertMany (entries more : List (Value × Value)) : List (Value × Value) :=
  more.foldl (fun es (k, v) => insert es k v) entries

/-- The value of a key that is a text. -/
def lookup? (entries : List (Value × Value)) (key : String) : Option Value :=
  (entries.find? fun (k, _) => k.isSameKey (.str key)).map (·.2)

end Value

end DeckPress
