import DeckPress.Text.Quoted

/-!
# Hosts in brackets

In a web address a host may stand in brackets.  It is then an address of the sixth version of the
internet protocol, or one of a later version that it names.

* `checkHost` accepts what may stand between the scheme of an address and its path.
-/

namespace DeckPress.Http

/-- What is wrong with the host of a web address. -/
inductive HostError where
  /-- Brackets that do not enclose a host. -/
  | brackets
  /-- A version of the protocol without an address of it. -/
  | laterVersion
  /-- An address of the fourth version, which has no brackets. -/
  | fourthVersion
  /-- A text that is no address. -/
  | noAddress (text : Text)
deriving DecidableEq, Repr

/-- The text that reports what is wrong with a host. -/
def HostError.message : HostError → String
  | brackets => "Invalid IPv6 URL"
  | laterVersion => "IPvFuture address is invalid"
  | fourthVersion => "An IPv4 address cannot be in brackets"
  | noAddress text =>
    Quoted.encode (String.ofList text) ++ " does not appear to be an IPv4 or IPv6 address"

namespace HostLiteral

/-- Whether a text is a number below 256 in decimal digits, without needless zeros. -/
def isOctet (s : Text) : Bool :=
  !s.isEmpty && s.all Char.isDigit && s.length ≤ 3 && (s.head? ≠ some '0' || s.length = 1) &&
    s.foldl (fun n c => n * 10 + (c.toNat - '0'.toNat)) 0 ≤ 255

/-- Whether a text is an address of the fourth version: four numbers with points between them. -/
def isFourthVersion (s : Text) : Bool :=
  let octets := Text.pieces '.' s
  octets.length = 4 && octets.all isOctet

/-- Whether a text is one group of an address: one to four hexadecimal digits. -/
def isGroup (s : Text) : Bool :=
  !s.isEmpty && s.length ≤ 4 && s.all fun c => (Text.hexValue? c).isSome

/-- The pieces of an address between its colons.  An address of the fourth version at the end counts
as two groups. -/
def groups? (s : Text) : Option (List Text) :=
  let pieces := Text.pieces ':' s
  match pieces.getLast? with
  | some last =>
    if pieces.length < 3 then none
    else if !last.contains '.' then some pieces
    else if isFourthVersion last then some (pieces.dropLast ++ [['0'], ['0']])
    else none
  | none => none

/-- Whether pieces make up an address: eight groups, or fewer with one gap that stands for the
others.  A gap at either end has an empty piece on both sides of its colon. -/
def areGroups (pieces : List Text) : Bool :=
  let inner := pieces.tail.dropLast
  if pieces.length > 9 then false
  else if inner.contains [] then
    let before := pieces.takeWhile (· ≠ [])
    let gap := (pieces.dropWhile (· ≠ [])).takeWhile (· = [])
    let after := (pieces.dropWhile (· ≠ [])).drop gap.length
    let needed := 1 + (if before.isEmpty then 1 else 0) + (if after.isEmpty then 1 else 0)
    gap.length = needed && before.length + after.length < 8 && (before ++ after).all isGroup
  else pieces.length = 8 && pieces.all isGroup

/-- Whether a text is an address of the sixth version, which may name a zone after a percent
sign. -/
def isSixthVersion (s : Text) : Bool :=
  let address := s.takeWhile (· ≠ '%')
  let zone := s.drop address.length
  (zone.isEmpty || (1 < zone.length && !zone.tail.contains '%')) &&
    (groups? address).any areGroups

/-- Whether a text names a later version, with a hexadecimal number, and an address of it. -/
def isLaterVersion (s : Text) : Bool :=
  match s with
  | 'v' :: rest =>
    let version := rest.takeWhile fun c => (Text.hexValue? c).isSome
    let address := rest.drop version.length
    !version.isEmpty && address.head? = some '.' && 1 < address.length
  | _ => false

/-- Accepts what may stand between brackets. -/
def check (s : Text) : Except HostError Unit :=
  if s.head? = some 'v' then
    if isLaterVersion s then .ok () else .error .laterVersion
  else if isFourthVersion s then .error .fourthVersion
  else if isSixthVersion s then .ok ()
  else .error (.noAddress s)

end HostLiteral

/-- Accepts the part of an address that names the host.  Without brackets anything will do; with
brackets there may be a user in front of the host and a port behind it. -/
def checkHost (s : Text) : Except HostError Unit :=
  if s.contains '[' || s.contains ']' then
    let host := ((s.reverse.takeWhile (· ≠ '@')).reverse)
    let before := host.takeWhile (· ≠ '[')
    let literal := (host.drop (before.length + 1)).takeWhile (· ≠ ']')
    let after := host.drop (before.length + literal.length + 2)
    if !(s.contains '[' && s.contains ']') then .error .brackets
    else if !host.contains '[' then HostLiteral.check (host.takeWhile (· ≠ ':'))
    else if !before.isEmpty then .error .brackets
    else if !(after.isEmpty || after.head? = some ':') then .error .brackets
    else HostLiteral.check literal
  else .ok ()

example : (checkHost "a@[::1]:80".toList).isOk := by decide +kernel

example : (checkHost "[1.2.3.4]".toList).isOk = false := by decide +kernel

end DeckPress.Http
