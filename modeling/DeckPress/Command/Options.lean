import DeckPress.Text.Quoted
import DeckPress.Text.Similar

/-!
# Options of commands

The words of a command line are options, which start with a dash, and arguments.  An option takes a
value, in the next word or after an equals sign, or none.

* `Scanned.ofWords` sorts the words of a command line; two dashes alone end the options.
* `Complaint.message` says what is wrong with a command line.
-/

namespace DeckPress.Command

/-- An option of a command. -/
structure KnownOption where
  /-- The name, with its dashes. -/
  name : String
  /-- What the value is, if the option takes one. -/
  value? : Option String
  description : String
deriving DecidableEq, Repr

/-- What is wrong with a command line. -/
inductive Complaint where
  /-- There is no such option; the ones given are similar. -/
  | unknownOption (name : String) (similar : List String)
  /-- An option that takes no value has one. -/
  | unwantedValue (name : String)
  | missingValue (name : String)
  /-- The value of an option is not a whole number. -/
  | notWhole (name value : String)
  /-- There are arguments, but the command takes none. -/
  | extraArguments (arguments : List String)
  | unknownCommand (name : String)
  | missingCommand
deriving DecidableEq, Repr

namespace Complaint

/-- The text of a complaint. -/
def message : Complaint → String
  | unknownOption name similar =>
    "No such option: " ++ name ++
      match similar with
      | [] => ""
      | [one] => s!" Did you mean {one}?"
      | many => " (Possible options: " ++ ", ".intercalate many ++ ")"
  | unwantedValue name => "Option " ++ Quoted.encode name ++ " does not take a value."
  | missingValue name => "Option " ++ Quoted.encode name ++ " requires an argument."
  | notWhole name value =>
    s!"Invalid value for '{name}': " ++ Quoted.encode value ++ " is not a valid integer."
  | extraArguments arguments =>
    "Got unexpected extra argument" ++ (if arguments.length = 1 then "" else "s") ++ " (" ++
      " ".intercalate arguments ++ ")"
  | unknownCommand name => "No such command " ++ Quoted.encode name ++ "."
  | missingCommand => "Missing command."

/-- Whether the report of a complaint shows how the command is used. -/
def showsUsage : Complaint → Bool
  | unwantedValue _ => false
  | missingValue _ => false
  | _ => true

end Complaint

/-- A command line by its words. -/
structure Scanned where
  /-- The options, in order, with their values. -/
  options : List (String × String) := []
  /-- The arguments, in order. -/
  arguments : List String := []
deriving DecidableEq, Repr

namespace Scanned

/-- Puts an option in front. -/
def addOption (name value : String) (s : Scanned) : Scanned :=
  { s with options := (name, value) :: s.options }

/-- Puts an argument in front. -/
def addArgument (word : String) (s : Scanned) : Scanned :=
  { s with arguments := word :: s.arguments }

/-- The name and the value in a word that is an option. -/
def splitValue (word : String) : String × Option String :=
  let name := word.toList.takeWhile (· ≠ '=')
  let value? := if word.toList.contains '=' then
      some (String.ofList (word.toList.drop (name.length + 1)))
    else none
  (String.ofList name, value?)

/-- The complaint about an option that there is not.  After a single dash each letter would be an
option of its own. -/
def unknown (known : List KnownOption) (word name : String) : Complaint :=
  if "--".toList.isPrefixOf word.toList then
    .unknownOption name (Similar.closest name (known.map (·.name)))
  else .unknownOption (String.ofList (word.toList.take 2)) []

/-- Whether a word is an option. -/
def isOption (word : String) : Bool :=
  match word.toList with
  | '-' :: _ :: _ => true
  | _ => false

/-- Sorts the words of a command line.  If `isMixed` is not set, the options end at the first
argument. -/
def ofWords (known : List KnownOption) (isMixed : Bool) : List String → Except Complaint Scanned
  | [] => .ok {}
  | word :: rest =>
    if word = "--" then .ok { arguments := rest }
    else if isOption word then
      let (name, value?) := splitValue word
      match known.find? (·.name = name) with
      | none => .error (unknown known word name)
      | some o =>
        if o.value?.isSome then
          match value?, rest with
          | some value, rest => (ofWords known isMixed rest).map (addOption name value)
          | none, value :: rest => (ofWords known isMixed rest).map (addOption name value)
          | none, [] => .error (.missingValue name)
        else if value?.isSome then .error (.unwantedValue name)
        else (ofWords known isMixed rest).map (addOption name "")
    else if isMixed then (ofWords known isMixed rest).map (addArgument word)
    else .ok { arguments := word :: rest }

/-- Whether an option is given. -/
def has (s : Scanned) (name : String) : Bool := s.options.any (·.1 = name)

/-- The value of an option; the last one, if it is given several times. -/
def value? (s : Scanned) (name : String) : Option String :=
  (s.options.reverse.find? (·.1 = name)).map (·.2)

end Scanned

end DeckPress.Command
