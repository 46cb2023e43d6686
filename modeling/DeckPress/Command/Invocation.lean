import DeckPress.Command.Help
import DeckPress.Number.Literal
import DeckPress.Text.Alphanumeric

/-!
# Reading a command line

`Invocation.ofWords` finds out what the words of a command line ask for; `Misuse.report` is what is
shown for words that make no sense.
-/

namespace DeckPress.Command

/-- A command line that makes no sense, and the command that it was meant for. -/
structure Misuse where
  command : Description
  complaint : Complaint
deriving DecidableEq, Repr

/-- The lines that are shown for a command line that makes no sense. -/
def Misuse.report (f : Misuse) : List String :=
  (if f.complaint.showsUsage then
    [f.command.usage, s!"Try '{f.command.call} --help' for help.", ""] else []) ++
    ["Error: " ++ f.complaint.message]

/-- What a build is asked to do differently from what the settings say. -/
structure Overrides where
  contentDir? : Option String := none
  theme? : Option String := none
  /-- The directory of the finished site. -/
  outputDir? : Option String := none
deriving DecidableEq, Repr

/-- What the program is asked to do. -/
inductive Invocation where
  /-- To show the help for a command. -/
  | help (command : Description)
  | version
  | build (overrides : Overrides)
  /-- To serve the site, on a port if one is given. -/
  | serve (portNumber? : Option Int)
deriving DecidableEq, Repr

namespace Invocation

/-- Reads the words after a command that takes no arguments.  Help comes before all else. -/
def ofCommand (d : Description) (words : List String)
    (make : Scanned → Except Complaint Invocation) : Except Misuse Invocation :=
  read.mapError (⟨d, ·⟩)
where
  /-- The invocation, or what is wrong with the words. -/
  read : Except Complaint Invocation := do
    let s ← Scanned.ofWords d.options true words
    if s.has Description.helpOption.name then return .help d
    let invocation ← make s
    if s.arguments.isEmpty then return invocation else throw (.extraArguments s.arguments)

/-- The build that options ask for. -/
def buildOf (s : Scanned) : Except Complaint Invocation :=
  .ok (.build {
    contentDir? := s.value? Description.contentDirOption.name
    theme? := s.value? Description.themeOption.name
    outputDir? := s.value? Description.outputDirOption.name })

/-- The preview that options ask for. -/
def serveOf (s : Scanned) : Except Complaint Invocation :=
  let name := Description.portOption.name
  match s.value? name with
  | none => .ok (.serve none)
  | some value =>
    match Literal.whole 10 (Quoted.encode value) value.toList with
    | .ok number => .ok (.serve (some number))
    | .error _ => .error (.notWhole name value)

/-- Reads the name of a command and the words after it.  A word in the place of the name that does
not start with a letter or a number asks for help. -/
def ofArguments (arguments : List String) : Except Misuse Invocation :=
  match arguments with
  | [] => .error ⟨Description.program, .missingCommand⟩
  | name :: words =>
    if name = "build" then ofCommand Description.build words buildOf
    else if name = "serve" then ofCommand Description.serve words serveOf
    else if name.toList.head?.any fun c => !Text.isAlphanumeric c then
      .ok (.help Description.program)
    else .error ⟨Description.program, .unknownCommand name⟩

/-- Reads a command line.  No words at all ask for help; of the options for help and for the
version, the first one counts. -/
def ofWords (words : List String) : Except Misuse Invocation :=
  if words.isEmpty then .ok (.help Description.program)
  else
    match Scanned.ofWords Description.program.options false words with
    | .error c => .error ⟨Description.program, c⟩
    | .ok s =>
      match s.options with
      | (name, _) :: _ =>
        if name = Description.versionOption.name then .ok .version
        else .ok (.help Description.program)
      | [] => ofArguments s.arguments

end Invocation

end DeckPress.Command
