import DeckPress.Calendar
import DeckPress.Number.Literal
import DeckPress.Text.Basic

/-!
# Dates in requests

A request may give a date, in any of the forms that mail has used: with a weekday or without, with
the day before the month or after it, with two digits for the year or four.  `Date.read?` is the
moment of a date in universal time; one of another time zone is not understood.
-/

namespace DeckPress.Http.Date

/-- The names of the weekdays. -/
def weekdays : List String := ["mon", "tue", "wed", "thu", "fri", "sat", "sun"]

/-- The short names of the months, in order, and then the long ones. -/
def months : List String :=
  ["jan", "feb", "mar", "apr", "may", "jun", "jul", "aug", "sep", "oct", "nov", "dec", "january",
    "february", "march", "april", "may", "june", "july", "august", "september", "october",
    "november", "december"]

/-- The names of universal time. -/
def universal : List String := ["UT", "UTC", "GMT", "Z"]

/-- The names of other time zones. -/
def zones : List String := ["AST", "ADT", "EST", "EDT", "CST", "CDT", "MST", "MDT", "PST", "PDT"]

/-- A text without a comma at its end. -/
def dropComma (s : Text) : Text := if s.getLast? = some ',' then s.dropLast else s

/-- The words of a date without the weekday. -/
def withoutWeekday : List Text → List Text
  | [] => []
  | w :: rest =>
    if w.getLast? = some ',' || weekdays.contains (String.ofList (Text.lower w)) then rest
    else ((Text.pieces ',' w).getLast?.getD w) :: rest

/-- Cuts a time at the sign of a time zone that follows it directly. -/
def cutZone (s : Text) : List Text :=
  let mark := if s.contains '+' then '+' else '-'
  let time := s.takeWhile (· ≠ mark)
  if s.contains mark && !time.isEmpty then [time, s.drop time.length] else [s, []]

/-- Day, month, year, time and time zone of a date, in the order in which they are written. -/
def fields? (words : List Text) : Option (Text × Text × Text × Text × Text) :=
  let words := withoutWeekday words
  let words := match words with
    | [date, time, zone] =>
      match Text.pieces '-' date with
      | [d, m, y] => [d, m, y, time, zone]
      | _ => words
    | _ => words
  let words := match words with
    | [a, b, c, time] => [a, b, c] ++ cutZone time
    | _ => words
  match words with
  | d :: m :: y :: time :: zone :: _ =>
    if d.isEmpty || m.isEmpty || y.isEmpty then none else some (d, m, y, time, zone)
  | _ => none

/-- The number of a month, from 1. -/
def month? (s : Text) : Option Nat :=
  (months.findIdx? (· = String.ofList (Text.lower s))).map (· % 12 + 1)

/-- Whether a year starts like a number. -/
def startsLikeNumber (s : Text) : Bool :=
  s.head?.any fun c => c.isDigit || c = '²' || c = '³' || c = '¹'

/-- The hour, minute and second of a time. -/
def clock? (s : Text) : Option (Text × Text × Text) :=
  match Text.pieces ':' s with
  | [h, m] => some (h, m, ['0'])
  | [h, m, s] => some (h, m, s)
  | [_] =>
    match Text.pieces '.' s with
    | [h, m] => some (h, m, ['0'])
    | [h, m, s] => some (h, m, s)
    | _ => none
  | _ => none

/-- A whole number that is not negative. -/
def natural? (s : Text) : Option Nat :=
  match Literal.whole 10 "" s with
  | .ok n => if 0 ≤ n then some n.toNat else none
  | .error _ => none

/-- The year that a number of two digits stands for; other numbers stand for themselves. -/
def fullYear (y : Int) : Int := if y < 100 then if 68 < y then y + 1900 else y + 2000 else y

/-- Whether a time zone is universal time, or is not understood and so taken for it. -/
def isUniversal (zone : Text) : Bool :=
  let name := String.ofList (Text.upper zone)
  universal.contains name ||
    !zones.contains name &&
      match Literal.whole 10 "" zone with
      | .ok n => n = 0
      | .error _ => true

/-- The seconds from the start of the calendar up to a date in universal time. -/
def read? (s : Text) : Option Int := do
  let (d, m, y, time, zone) ← fields? (Text.words s)
  let (d, m) ← match month? m with
    | some month => some (d, month)
    | none => (month? d).map fun month => (Text.lower m, month)
  let (y, time) := if y.contains ':' && y.head? ≠ some ':' then (time, y) else (y, time)
  let y := dropComma y
  if y.isEmpty || time.isEmpty then none
  let (y, zone) := if startsLikeNumber y then (y, zone) else (zone, y)
  let (h, min, sec) ← clock? (dropComma time)
  let year ← (Literal.whole 10 "" y).toOption
  let year := fullYear year
  if year < 0 || !isUniversal zone then none
  let moment ← (Calendar.Moment.of year.toNat m (← natural? (dropComma d)) (← natural? h)
    (← natural? min) (← natural? sec) 0 none).toOption
  return moment.instant

/-- The start of the year 1970, in seconds from the start of the calendar. -/
def epoch : Int := (Calendar.Moment.mk ⟨1970, 1, 1⟩ 0 0 0 0 none).instant

/-- The second in which a file was changed, from the start of the calendar.  The time of a file
counts nanoseconds from 1970 on; it is read as a floating-point number and rounded to microseconds
first. -/
def ofFileTime (nanoseconds : Int) : Int :=
  let seconds := nanoseconds.fdiv 1000000000
  let rest := (nanoseconds.fmod 1000000000).toNat
  let whole := Binary64.ofRatio (seconds < 0) seconds.natAbs 1
  let exact := whole.add ((Binary64.ofDecimal false 1 (-9)).mul (Binary64.ofRatio false rest 1))
  match exact with
  | .finite negative m e =>
    let (num, den) := Binary64.scale m 1 e
    let micros := Binary64.divNearest (num * 1000000) den
    epoch + (if negative then -(micros : Int) else micros).fdiv 1000000
  | _ => epoch + seconds

end DeckPress.Http.Date
