/-!
# Dates and times of day

Days of the Gregorian calendar from the year 1 to 9999, and times of a day with microseconds and an
offset from universal time.

* `Day.of` and `Moment.of` check their fields in the order from the year down, and report the first
  one that is out of range.
* `Day.text`, `Moment.text` write them in digits, `Day.form` and `Moment.form` as the calls that
  would build them.
-/

namespace DeckPress.Calendar

/-- Why a date or time could not be made. -/
inductive Error where
  /-- The year lies outside 1 to 9999. -/
  | year (year : Nat)
  | month
  /-- The month has no such day. -/
  | day
  | hour
  | minute
  | second
  /-- An offset, in seconds, reaches a whole day. -/
  | offset (seconds : Int)
  /-- A text has not the form of a date. -/
  | form
deriving DecidableEq, Repr

/-- A day of the calendar. -/
structure Day where
  year : Nat
  /-- The month, from 1. -/
  month : Nat
  /-- The day of the month, from 1. -/
  day : Nat
deriving DecidableEq, Repr

/-- A time of a day. -/
structure Moment where
  date : Day
  /-- The hour, from 0. -/
  hour : Nat
  /-- The minute, from 0. -/
  minute : Nat
  /-- The second, from 0. -/
  second : Nat
  /-- The microsecond, from 0. -/
  micro : Nat
  /-- The offset from universal time in seconds, if one is known. -/
  offset? : Option Int
deriving DecidableEq, Repr

/-- Whether a year has a 29th of February. -/
def isLeap (y : Nat) : Bool := y % 4 = 0 && (y % 100 ≠ 0 || y % 400 = 0)

/-- The number of days of a month. -/
def daysIn (y m : Nat) : Nat :=
  if m = 2 then if isLeap y then 29 else 28
  else if m = 4 || m = 6 || m = 9 || m = 11 then 30
  else 31

/-- The day with the given fields, if there is one. -/
def Day.of (y m d : Nat) : Except Error Day :=
  if y < 1 || 9999 < y then .error (.year y)
  else if m < 1 || 12 < m then .error .month
  else if d < 1 || daysIn y m < d then .error .day
  else .ok ⟨y, m, d⟩

/-- The seconds of a day. -/
def secondsOfDay : Int := 86400

/-- The moment with the given fields, if there is one. -/
def Moment.of (y m d h min s us : Nat) (offset? : Option Int) : Except Error Moment := do
  if let some o := offset? then
    if o ≤ -secondsOfDay || secondsOfDay ≤ o then throw (.offset o)
  let date ← Day.of y m d
  if 23 < h then throw .hour
  if 59 < min then throw .minute
  if 59 < s then throw .second
  return ⟨date, h, min, s, us, offset?⟩

/-- A number in decimal digits, filled up with zeros in front. -/
def padded (width n : Nat) : String :=
  let ds := Nat.toDigits 10 n
  String.ofList (List.replicate (width - ds.length) '0' ++ ds)

/-- A day in digits. -/
def Day.text (d : Day) : String := s!"{padded 4 d.year}-{padded 2 d.month}-{padded 2 d.day}"

/-- A length of time as the call that builds it: whole days, which may be negative, and seconds. -/
def spanForm (seconds : Int) : String :=
  let days := seconds.fdiv secondsOfDay
  let rest := seconds.fmod secondsOfDay
  let pieces := (if days = 0 then [] else [s!"days={days}"]) ++
    (if rest = 0 then [] else [s!"seconds={rest}"])
  "datetime.timedelta(" ++ (if pieces.isEmpty then "0" else ", ".intercalate pieces) ++ ")"

/-- An offset in hours and minutes. -/
def offsetText (seconds : Int) : String :=
  let minutes := seconds.natAbs / 60
  (if seconds < 0 then "-" else "+") ++ s!"{padded 2 (minutes / 60)}:{padded 2 (minutes % 60)}"

/-- A moment in digits. -/
def Moment.text (t : Moment) : String :=
  s!"{t.date.text} {padded 2 t.hour}:{padded 2 t.minute}:{padded 2 t.second}" ++
    (if t.micro = 0 then "" else "." ++ padded 6 t.micro) ++
    (match t.offset? with
      | some o => offsetText o
      | none => "")

/-- A day as the call that builds it. -/
def Day.form (d : Day) : String := s!"datetime.date({d.year}, {d.month}, {d.day})"

/-- A moment as the call that builds it; seconds and microseconds are left out if they are zero. -/
def Moment.form (t : Moment) : String :=
  let tail := if t.micro ≠ 0 then [t.second, t.micro] else if t.second ≠ 0 then [t.second] else []
  let fields := [t.date.year, t.date.month, t.date.day, t.hour, t.minute] ++ tail
  let zone := match t.offset? with
    | none => ""
    | some o =>
      ", tzinfo=datetime.timezone" ++ if o = 0 then ".utc" else "(" ++ spanForm o ++ ")"
  "datetime.datetime(" ++ ", ".intercalate (fields.map fun n => s!"{n}") ++ zone ++ ")"

/-- The days from the start of the year 1 up to a day. -/
def Day.number (d : Day) : Nat :=
  let y := d.year - 1
  y * 365 + y / 4 - y / 100 + y / 400 +
    (List.range (d.month - 1)).foldl (fun n m => n + daysIn d.year (m + 1)) 0 + d.day

/-- The seconds of universal time from the start of the calendar up to a moment. -/
def Moment.instant (t : Moment) : Int :=
  t.date.number * secondsOfDay + t.hour * 3600 + t.minute * 60 + t.second - t.offset?.getD 0

/-- Whether two moments are the same time.  One with an offset is never the same as one without. -/
def Moment.same (s t : Moment) : Bool :=
  s.offset?.isSome == t.offset?.isSome && s.instant == t.instant && s.micro == t.micro

/-- The text that reports an error. -/
def Error.message : Error → String
  | year y => s!"year {y} is out of range"
  | month => "month must be in 1..12"
  | day => "day is out of range for month"
  | hour => "hour must be in 0..23"
  | minute => "minute must be in 0..59"
  | second => "second must be in 0..59"
  | offset o =>
    "offset must be a timedelta strictly between -timedelta(hours=24) and " ++
      "timedelta(hours=24), not " ++
      spanForm o ++ "."
  | form => "'NoneType' object has no attribute 'groupdict'"

end DeckPress.Calendar
