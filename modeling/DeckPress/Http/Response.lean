import DeckPress.Http.Date
import DeckPress.Http.Request
import DeckPress.Http.Target
import DeckPress.Host.Basic

/-!
# Responses

A web server (`_PreviewHandler`) that shows the files below one directory.

* `Response.ofRequest` answers a request: with a file, with the way to a directory, or with a
  refusal. A directory is shown by its index and never as a list.
* No answer may be kept by a cache, since the files change all the time.
* `Http.answer` reads a request and answers it.

The pages that explain refusals, and the fields that describe the server and the date, are not part
of this description.
-/

namespace DeckPress.Http

/-- An answer with a head. -/
structure Response where
  status : Nat
  /-- The fields, in order. -/
  fields : List Field
  /-- What follows the head. -/
  body : List UInt8
deriving DecidableEq, Repr

/-- What is sent on a connection. -/
inductive Reply where
  /-- Nothing, or something without a head. -/
  | headless
  | response (response : Response)
deriving DecidableEq, Repr

namespace Response

/-- The field that forbids caches to keep an answer. -/
def noCaching : Field := ⟨"Cache-Control".toList, "no-cache, no-store, must-revalidate".toList⟩

/-- An answer; every answer forbids caches to keep it. -/
def make (status : Nat) (fields : List Field) (body : List UInt8) : Response :=
  ⟨status, fields ++ [noCaching], body⟩

/-- A refusal. -/
def refusal (status : Nat) : Response := make status [⟨"Connection".toList, "close".toList⟩] []

/-- The field that tells the length of what follows. -/
def contentLength (n : Nat) : Field := ⟨"Content-Length".toList, (toString n).toList⟩

/-- The way to another address. -/
def redirection (target : Text) : Response :=
  make 301 [⟨"Location".toList, target⟩, contentLength 0] []

/-- A file; only its head if no more was asked for. -/
def ofFile (f : File) (isHeadOnly : Bool) : Response :=
  make 200 [contentLength f.bytes.length] (if isHeadOnly then [] else f.bytes)

/-- Whether the sender of a request has a file already: it names a time at which it got it, and the
file has not changed since. -/
def isKnown (r : Request) (f : File) : Bool :=
  match r.field? "If-Modified-Since", r.field? "If-None-Match" with
  | some date, none => (Date.read? date).any (Date.ofFileTime f.modified ≤ ·)
  | _, _ => false

/-- The names of the pages that show a directory. -/
def indexNames : List String := ["index.html", "index.htm"]

/-- What can be seen at a path, if anything. -/
def nodeAt? (h : Host) (p : Path) : Option Node := (h.look p).toOption.join

/-- Shows the file at a path. -/
def ofPath (h : Host) (r : Request) (p : Path) : Response :=
  match h.locate p >>= h.tree.readFile with
  | .error _ => refusal 404
  | .ok f => if isKnown r f then make 304 [] [] else ofFile f (r.method = "HEAD".toList)

/-- Shows a directory, if the target says that it is one, and otherwise the way to it. -/
def ofDirectory (h : Host) (r : Request) (p : Path) : Except HostError Response := do
  let a ← Target.split r.target
  if a.path.getLast? = some '/' then
    match indexNames.find? fun name => (nodeAt? h (p.child name)).any Node.isFile with
    | some name => return ofPath h r (p.child name)
    | none => return refusal 404
  else return redirection a.asDirectory.text

/-- Shows what a target leads to below a directory. -/
def ofTarget (h : Host) (directory : Path) (r : Request) : Except Cause Response :=
  match Target.place directory r.target with
  | .error c => if Target.endsInSlash r.target then .ok (refusal 404) else .error c
  | .ok none => .ok (refusal 404)
  | .ok (some p) =>
    if (nodeAt? h p).any Node.isDirectory then (ofDirectory h r p).mapError .host
    else if Target.endsInSlash r.target then .ok (refusal 404)
    else .ok (ofPath h r p)

/-- Answers a request. -/
def ofRequest (h : Host) (directory : Path) (r : Request) : Except Cause Response :=
  if r.method = "GET".toList || r.method = "HEAD".toList then ofTarget h directory r
  else .ok (refusal 501)

end Response

/-- Puts a response into the form that was asked for. -/
def Reply.of (wantsHead : Bool) (r : Response) : Reply :=
  if wantsHead then .response r else .headless

/-- Reads a request and answers it with what is below a directory. -/
def answer (h : Host) (directory : Path) (raw : Text) : Except Cause Reply :=
  match Request.read raw with
  | .nothing => .ok .headless
  | .refused status wantsHead => .ok (.of wantsHead (.refusal status))
  | .request r => (Response.ofRequest h directory r).map (.of r.wantsHead)

end DeckPress.Http
