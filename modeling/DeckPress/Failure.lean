import DeckPress.Calendar
import DeckPress.Errno
import DeckPress.Http.HostLiteral
import DeckPress.Number.Literal
import DeckPress.Path
import DeckPress.Text.Utf8

/-!
# Failures

What can go wrong, by cause.  A `Cause` is a failure of one operation: of the file system, of a
conversion, of a look-up.  A `Failure` is what a whole command ends with: a cause, or a `SiteError`
(`BuildError`, and `RenderError` where it has a report of a run), which says what a build was about
when it failed.

* `Cause.kind` sorts causes into kinds, each with a name that reports show.
* `Cause.message` and `SiteError.message` are the only places where the texts are made.
* `Cause.summary` (`_format_error_message`) is the line for people: the kind and the text, without
  the path.
-/

namespace DeckPress

/-- The kinds of failures. -/
inductive Kind where
  /-- The file system refused, with no kind of its own. -/
  | system
  | fileNotFound
  | permission
  | fileExists
  | notADirectory
  | isADirectory
  | interrupted
  /-- A call would have to wait. -/
  | blocking
  /-- The other end of a pipe is gone. -/
  | brokenPipe
  | childProcess
  | processLookup
  | timeout
  /-- The other side reset the connection. -/
  | connectionReset
  | connectionAborted
  | connectionRefused
  /-- Bytes are no text. -/
  | decoding
  /-- A text has no bytes. -/
  | encoding
  | document
  /-- A value is out of range. -/
  | value
  /-- A number is out of range. -/
  | overflow
  /-- A value is of the wrong type. -/
  | type
  | key
  /-- A position is out of range. -/
  | index
  /-- A value has no such part. -/
  | part
  /-- Nesting that never ends, or is too deep. -/
  | recursion
  | runtime
deriving DecidableEq, Repr

/-- The name that reports show for a kind. -/
def Kind.label : Kind → String
  | system => "OSError"
  | fileNotFound => "FileNotFoundError"
  | permission => "PermissionError"
  | fileExists => "FileExistsError"
  | notADirectory => "NotADirectoryError"
  | isADirectory => "IsADirectoryError"
  | interrupted => "InterruptedError"
  | blocking => "BlockingIOError"
  | brokenPipe => "BrokenPipeError"
  | childProcess => "ChildProcessError"
  | processLookup => "ProcessLookupError"
  | timeout => "TimeoutError"
  | connectionReset => "ConnectionResetError"
  | connectionAborted => "ConnectionAbortedError"
  | connectionRefused => "ConnectionRefusedError"
  | decoding => "UnicodeDecodeError"
  | encoding => "UnicodeEncodeError"
  | document => "YAMLError"
  | value => "ValueError"
  | overflow => "OverflowError"
  | type => "TypeError"
  | key => "KeyError"
  | index => "IndexError"
  | part => "AttributeError"
  | recursion => "RecursionError"
  | runtime => "RuntimeError"

/-- The kind that the number of a system error stands for. -/
def Errno.kind (e : Errno) : Kind :=
  match e.code with
  | 1 => .permission
  | 2 => .fileNotFound
  | 3 => .processLookup
  | 4 => .interrupted
  | 10 => .childProcess
  | 11 => .blocking
  | 13 => .permission
  | 17 => .fileExists
  | 20 => .notADirectory
  | 21 => .isADirectory
  | 32 => .brokenPipe
  | 103 => .connectionAborted
  | 104 => .connectionReset
  | 108 => .brokenPipe
  | 110 => .timeout
  | 111 => .connectionRefused
  | 114 => .blocking
  | 115 => .blocking
  | _ => .system

/-- How a report names the file of a failed operation. -/
inductive FileRef where
  | name (name : String)
  | path (path : Path)
deriving DecidableEq, Repr

/-- The quoted form of a path. -/
def Path.form (p : Path) : String := "PosixPath(" ++ Quoted.encode p.toString ++ ")"

/-- The quoted form of a file in a report. -/
def FileRef.quoted : FileRef → String
  | name s => Quoted.encode s
  | path p => p.form

/-- A failed operation of the file system. -/
inductive OsError where
  /-- A failure known by its text only. -/
  | plain (message : String)
  /-- A failure with its number, a text, the file it happened to, and, for a move, the target. -/
  | numbered (errno : Errno) (text : String) (file? target? : Option FileRef)
deriving DecidableEq, Repr

namespace OsError

/-- The kind of a failed operation. -/
def kind : OsError → Kind
  | plain _ => .system
  | numbered e _ _ _ => e.kind

/-- The text of a failed operation, with number and files. -/
def message : OsError → String
  | plain m => m
  | numbered e text file? target? =>
    s!"[Errno {e.code}] {text}" ++
      match file?, target? with
      | some f, some t => ": " ++ f.quoted ++ " -> " ++ t.quoted
      | some f, none => ": " ++ f.quoted
      | none, _ => ""

/-- The text that goes with the number, or nothing. -/
def text? : OsError → Option String
  | plain _ => none
  | numbered _ text _ _ => if text.isEmpty then none else some text

end OsError

/-- Why a text could not be encoded. -/
structure EncodeError where
  text : Text
  /-- The position of the first character at fault. -/
  start : Int
  /-- The position after the last character at fault. -/
  stop : Int
  /-- What is wrong there. -/
  reason : String
deriving DecidableEq, Repr

/-- The element at a position that is neither negative nor past the end, if the fault covers just
that one. -/
def single? {α : Type} (items : List α) (start stop : Int) : Option α :=
  if 0 ≤ start && stop = start + 1 then items[start.toNat]? else none

/-- The text of a decoding error. -/
def Utf8.DecodeError.message (e : Utf8.DecodeError) : String :=
  "'utf-8' codec can't decode " ++
    (match single? e.bytes e.start e.stop with
      | some b =>
        "byte 0x" ++ String.ofList (Text.hexDigits 2 b.toNat) ++ s!" in position {e.start}"
      | none => s!"bytes in position {e.start}-{e.stop - 1}") ++
    ": " ++ e.reason

/-- The text that reports code points without bytes; `code?` is given if there is just one. -/
def withoutBytes (code? : Option Nat) (start stop : Int) (reason : String) : String :=
  "'utf-8' codec can't encode " ++
    (match code? with
      | some n => "character '" ++ String.ofList (Quoted.byNumber n) ++ s!"' in position {start}"
      | none => s!"characters in position {start}-{stop - 1}") ++
    ": " ++ reason

/-- The text of an encoding error. -/
def EncodeError.message (e : EncodeError) : String :=
  withoutBytes ((single? e.text e.start e.stop).map Char.toNat) e.start e.stop e.reason

/-- The failure of one operation. -/
inductive Cause where
  | os (error : OsError)
  /-- Bytes are no text. -/
  | undecodable (error : Utf8.DecodeError)
  /-- A text has no bytes. -/
  | unencodable (error : EncodeError)
  | malformed
  /-- A number could not be made. -/
  | number (error : NumberError)
  /-- A date could not be made. -/
  | date (error : Calendar.Error)
  /-- A web address has a host that is none. -/
  | host (error : Http.HostError)
  /-- A path, or a word of a command line, holds the character NUL. -/
  | nulInPath
  /-- A text that bytes are needed of holds code points, from one place up to another, that are halves
  of pairs; the first of them has the given code. -/
  | unpaired (code start stop : Nat)
  /-- A path has no last name. -/
  | nameless (path : Path)
  /-- A path does not lie below another one. -/
  | notBelow (path base : Path)
  | missing (key : String)
  /-- There is a list where there has to be a text. -/
  | listForText
  /-- Values lie inside one another without end, or deeper than can be followed. -/
  | endless
  /-- A failure of the given kind that comes from outside. -/
  | raised (kind : Kind) (message : String)
deriving DecidableEq, Repr

namespace Cause

/-- The kind of a cause. -/
def kind : Cause → Kind
  | os e => e.kind
  | undecodable _ => .decoding
  | unencodable _ => .encoding
  | malformed => .document
  | number e =>
    match e with
    | .notNumeric _ => .type
    | .wholePartOfInfinity => .overflow
    | .tooLargeForCodePoint => .overflow
    | .tooLargeForReal => .overflow
    | .noFirstCharacter => .index
    | _ => .value
  | date e => if e = .form then .part else .value
  | host _ => .value
  | nulInPath => .value
  | unpaired _ _ _ => .encoding
  | nameless _ => .value
  | notBelow _ _ => .value
  | missing _ => .key
  | listForText => .type
  | endless => .recursion
  | raised k _ => k

/-- The text of a cause. -/
def message : Cause → String
  | os e => e.message
  | undecodable e => e.message
  | unencodable e => e.message
  | malformed => ""
  | number e => e.message
  | date e => e.message
  | host e => e.message
  | nulInPath => "embedded null byte"
  | unpaired code start stop =>
    withoutBytes (if stop = start + 1 then some code else none) start stop "surrogates not allowed"
  | nameless p => p.form ++ " has an empty name"
  | notBelow p base =>
    Quoted.encode p.toString ++ " is not in the subpath of " ++ Quoted.encode base.toString ++
      " OR one path is relative and the other is absolute."
  | missing key => Quoted.encode key
  | listForText => "expected string or bytes-like object, got 'list'"
  | endless => "maximum recursion depth exceeded"
  | raised k m => if k = .key then Quoted.encode m else m

/-- The line that tells people about a cause.  The path of a failed file operation is left out,
since the report names it already. -/
def summary (c : Cause) : String :=
  match c with
  | undecodable e => "Not valid UTF-8 text: " ++ e.message
  | os e => e.kind.label ++ ": " ++ e.text?.getD e.message
  | c => c.kind.label ++ ": " ++ c.message

/-- Whether the file system is the cause. -/
def isOs : Cause → Bool
  | os _ => true
  | _ => false

/-- Whether a failure of a look for a path means that nothing is there: the system says so, or no
file can have the path. -/
def isAbsence : Cause → Bool
  | os (.numbered e _ _ _) => e.isAbsence
  | os (.plain _) => false
  | c => c.kind = .value || c.kind = .decoding || c.kind = .encoding

end Cause

/-- The failure of a file operation on `p`. -/
def Errno.on (e : Errno) (p : Path) : Cause :=
  .os (.numbered e e.text (some (.name p.toString)) none)

/-- The failure of a move from `p` to `q`. -/
def Errno.moving (e : Errno) (p q : Path) : Cause :=
  .os (.numbered e e.text (some (.name p.toString)) (some (.name q.toString)))

/-- What was wrong when a build failed. -/
inductive Problem where
  /-- The renderer made no page for the readme document. -/
  | noReadme
  /-- The renderer made no index page. -/
  | noIndex
  | failed (cause : Cause)
  | notInstalled (renderer : String)
  /-- The renderer could not be started. -/
  | notStarted (renderer : String) (cause : Cause)
  /-- The renderer ended with a status other than zero. -/
  | exited (renderer : String) (status : Int)
  /-- Something that a renderer says in its own words, and what it says was behind it. -/
  | stated (message : String) (behind? : Option Cause)
deriving DecidableEq, Repr

/-- How far a renderer came. -/
structure RunReport where
  /-- The command line, empty if there was none. -/
  command : List String := []
  /-- The exit status, if the renderer ran to its end. -/
  status? : Option Int := none
deriving DecidableEq, Repr

/-- A failed build. -/
structure SiteError where
  /-- The file or directory at which the build failed. -/
  path : Path
  problem : Problem
  /-- How far the renderer came, if it is the renderer that failed. -/
  run? : Option RunReport := none
deriving DecidableEq, Repr

namespace SiteError

/-- What was wrong, for people. -/
def message (e : SiteError) : String :=
  match e.problem with
  | .noReadme => "Expected readme page was not generated"
  | .noIndex => "Expected index page was not generated"
  | .failed c => c.summary
  | .notInstalled r =>
    r ++ " not found. Install it with \x60npm install -D " ++ r ++ "\x60 in the project."
  | .notStarted r c => "Could not run " ++ r ++ ": " ++ c.message
  | .exited r s => r ++ s!" exited with status {s}"
  | .stated m _ => m

/-- The path and what was wrong there. -/
def text (e : SiteError) : String := e.path.toString ++ ": " ++ e.message

/-- The cause behind the error, if it has one. -/
def cause? (e : SiteError) : Option Cause :=
  match e.problem with
  | .failed c => some c
  | .notStarted _ c => some c
  | .stated _ c => c
  | _ => none

/-- Whether the error was raised while its cause was being handled. -/
def isChained (e : SiteError) : Bool :=
  match e.problem with
  | .failed _ => true
  | .notStarted _ _ => true
  | _ => false

end SiteError

/-- What a command ends with if it fails. -/
inductive Failure where
  | cause (cause : Cause)
  | site (error : SiteError)
deriving DecidableEq, Repr

/-- The text of a failure. -/
def Failure.text : Failure → String
  | cause c => c.message
  | site e => e.text

end DeckPress
