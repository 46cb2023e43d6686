import DeckPress.Failure
import DeckPress.Http.Percent

/-!
# Targets of requests

The target of a request is a web address, most often only its path.

* `Target.pieces` are the names that the path leads along, and `Target.place` is where they lead
  from a directory.  They never lead out of the directory that is served.
* `Target.split` takes an address apart and `Address.text` puts it together; `Address.asDirectory`
  is the address with a slash at the end of the path.
-/

namespace DeckPress.Http

/-- A web address by its parts. -/
structure Address where
  /-- The scheme, in lower case. -/
  scheme : Text
  /-- The host, with all that belongs to it. -/
  host : Text
  path : Text
  query : Text
  fragment : Text
deriving DecidableEq, Repr

/-- The schemes whose addresses have a host. -/
def hostSchemes : List String :=
  ["ftp", "http", "gopher", "nntp", "telnet", "imap", "wais", "file", "mms", "https", "shttp",
    "snews", "prospero", "rtsp", "rtspu", "rsync", "svn", "svn+ssh", "sftp", "nfs", "git",
    "git+ssh", "ws", "wss"]

/-- Writes an address.  A scheme that needs a host gets an empty one, unless the path could be taken
for one. -/
def Address.text (a : Address) : Text :=
  let hasHost := !a.host.isEmpty ||
    (hostSchemes.contains (String.ofList a.scheme) && !"//".toList.isPrefixOf a.path)
  let needsSlash := hasHost && !a.path.isEmpty && a.path.head? ≠ some '/'
  let path := if needsSlash then '/' :: a.path else a.path
  (if a.scheme.isEmpty then [] else a.scheme ++ [':']) ++
    (if hasHost then "//".toList ++ a.host ++ path else path) ++
    (if a.query.isEmpty then [] else '?' :: a.query) ++
    (if a.fragment.isEmpty then [] else '#' :: a.fragment)

/-- The address of the directory that an address leads to. -/
def Address.asDirectory (a : Address) : Address := { a with path := a.path ++ ['/'] }

namespace Target

/-- Cuts a text at the first occurrence of a mark, which is dropped. -/
def cut (mark : Char) (s : Text) : Text × Text :=
  (s.takeWhile (· ≠ mark), (s.dropWhile (· ≠ mark)).drop 1)

/-- Whether a text can be a scheme. -/
def isScheme (s : Text) : Bool :=
  s.head?.any Char.isAlpha && s.all fun c => c.isAlphanum || c == '+' || c == '-' || c == '.'

/-- Takes an address apart. -/
def split (target : Text) : Except HostError Address := do
  let s := target.dropWhile (· ≤ ' ')
  let head := s.takeWhile (· ≠ ':')
  let (scheme, s) :=
    if s.contains ':' && isScheme head then (head.map Char.toLower, s.drop (head.length + 1))
    else ([], s)
  let (host, s) :=
    if "//".toList.isPrefixOf s then
      let isHost := fun c => c ≠ '/' && c ≠ '?' && c ≠ '#'
      ((s.drop 2).takeWhile isHost, (s.drop 2).dropWhile isHost)
    else ([], s)
  checkHost host
  let (s, fragment) := cut '#' s
  let (path, query) := cut '?' s
  return ⟨scheme, host, path, query, fragment⟩

/-- The path of a target. -/
def path (target : Text) : Text := target.takeWhile fun c => c ≠ '?' && c ≠ '#'

/-- Whether the path of a target ends in a slash. -/
def endsInSlash (target : Text) : Bool := (path target).getLast? = some '/'

/-- One more piece of a path: a name goes further down, two dots go back up, but not above the
start. -/
def step (names : List (List CodePoint)) (piece : List CodePoint) : List (List CodePoint) :=
  if piece = [] || piece = CodePoint.ofText ['.'] then names
  else if piece = CodePoint.ofText ['.', '.'] then names.dropLast
  else names ++ [piece]

/-- The pieces of code points between slashes. -/
def betweenSlashes (s : List CodePoint) : List (List CodePoint) :=
  s.foldr (fun c pieces => match pieces with
    | piece :: rest => if c = .char '/' then [] :: piece :: rest else (c :: piece) :: rest
    | [] => [[c]]) [[]]

/-- The names that the path of a target leads along. -/
def pieces (target : Text) : List (List CodePoint) :=
  (betweenSlashes (Percent.decode (path target))).foldl step []

/-- The path of a directory and names below it, as code points. -/
def written (directory : Path) (names : List (List CodePoint)) : List CodePoint :=
  let top := directory.toString.toList
  let top := if top.getLast? = some '/' then top.dropLast else top
  CodePoint.ofText top ++ names.flatMap (.char '/' :: ·)

/-- Where a target leads from a directory.  There is nothing if no file has such a name, and a
failure if no file can have it. -/
def place (directory : Path) (target : Text) : Except Cause (Option Path) :=
  let names := pieces target
  match CodePoint.fault? (written directory names) with
  | some (start, stop, code) => .error (.unpaired code start stop)
  | none =>
    if names.any (·.contains (.char '\x00')) then .error .nulInPath
    else .ok ((names.mapM CodePoint.name?).map fun names =>
      ⟨directory.root, directory.names ++ names⟩)

example : pieces "/a/../../b%20c?x".toList = [CodePoint.ofText "b c".toList] := by decide +kernel

end Target

end DeckPress.Http
