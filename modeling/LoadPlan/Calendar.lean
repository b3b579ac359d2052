import LoadPlan.Text

/-!
# Dates and times

The calendar values that a document can hold.

* `Date`, `Clock`, `Moment` — a day of the Gregorian calendar, a time of day, and both together
  with an optional distance from universal time.
* `Date.isValid`, `Clock.isValid`, `validOffset` — which numbers name one.
* `Date.iso`, `Clock.iso`, `Moment.iso` — the ISO 8601 texts.
* `Moment.same` — equality in time: moments with a distance from universal time are equal when
  they are the same instant, moments without one when they show the same numbers.
-/

namespace LoadPlan

/-- **A day** of the Gregorian calendar. -/
structure Date where
  /-- From 1 to 9999. -/
  year : Nat
  /-- From 1 to 12. -/
  month : Nat
  /-- From 1 to the length of the month. -/
  day : Nat
deriving DecidableEq

/-- **A time of day.** -/
structure Clock where
  /-- From 0 to 23. -/
  hour : Nat
  /-- From 0 to 59. -/
  minute : Nat
  /-- From 0 to 59. -/
  second : Nat
  /-- From 0 to 999999. -/
  microsecond : Nat
deriving DecidableEq

/-- **A moment**: a day, a time of day, and the seconds by which local time is ahead of universal
time, when that is known. -/
structure Moment where
  /-- The day. -/
  date : Date
  /-- The time of day. -/
  clock : Clock
  /-- The seconds by which local time is ahead of universal time. -/
  offset : Option Int
deriving DecidableEq

def isLeapYear (year : Nat) : Bool :=
  year % 4 == 0 && (year % 100 != 0 || year % 400 == 0)

def daysInMonth (year month : Nat) : Nat :=
  if month = 2 then (if isLeapYear year then 29 else 28)
  else if month = 4 ∨ month = 6 ∨ month = 9 ∨ month = 11 then 30
  else 31

namespace Date

/-- Whether the numbers name a day. -/
def isValid (d : Date) : Bool :=
  1 ≤ d.year && d.year ≤ 9999 && 1 ≤ d.month && d.month ≤ 12 && 1 ≤ d.day
    && d.day ≤ daysInMonth d.year d.month

/-- The number of days from the first day of year one. -/
def dayNumber (d : Date) : Nat :=
  let years := d.year - 1
  let months :=
    (List.range (d.month - 1)).foldl (fun days m => days + daysInMonth d.year (m + 1)) 0
  years * 365 + years / 4 - years / 100 + years / 400 + months + (d.day - 1)

/-- Year, month and day with hyphens. -/
def iso (d : Date) : Text :=
  Text.ofNatPadded 4 d.year ++ "-" ++ Text.ofNatPadded 2 d.month ++ "-" ++ Text.ofNatPadded 2 d.day

end Date

namespace Clock

/-- Whether the numbers name a time of day. -/
def isValid (c : Clock) : Bool :=
  c.hour < 24 && c.minute < 60 && c.second < 60 && c.microsecond < 1000000

/-- Hours, minutes and seconds with colons, and a fraction of six digits unless it is zero. -/
def iso (c : Clock) : Text :=
  let fraction : Text :=
    if c.microsecond = 0 then "" else "." ++ Text.ofNatPadded 6 c.microsecond
  Text.ofNatPadded 2 c.hour ++ ":" ++ Text.ofNatPadded 2 c.minute ++ ":"
    ++ Text.ofNatPadded 2 c.second ++ fraction

end Clock

/-- A distance from universal time is shorter than a day. -/
def validOffset (seconds : Int) : Bool := -86400 < seconds && seconds < 86400

/-- A distance from universal time with its sign, in hours and minutes, and seconds if there are
any. -/
def offsetText (seconds : Int) : Text :=
  let sign : Text := if seconds < 0 then "-" else "+"
  let magnitude := seconds.natAbs
  let rest : Text := if magnitude % 60 = 0 then "" else ":" ++ Text.ofNatPadded 2 (magnitude % 60)
  sign ++ Text.ofNatPadded 2 (magnitude / 3600) ++ ":"
    ++ Text.ofNatPadded 2 (magnitude / 60 % 60) ++ rest

namespace Moment

/-- Day and time of day with a separator between them, and the distance from universal time. -/
def isoWith (separator : Text) (m : Moment) : Text :=
  m.date.iso ++ separator ++ m.clock.iso ++ (m.offset.map offsetText).getD []

def iso (m : Moment) : Text := m.isoWith "T"

/-- The microseconds from the start of year one, in local time. -/
def localMicroseconds (m : Moment) : Int :=
  let seconds := ((m.date.dayNumber * 24 + m.clock.hour) * 60 + m.clock.minute) * 60
    + m.clock.second
  ((seconds * 1000000 + m.clock.microsecond : Nat) : Int)

/-- Equality in time. -/
def same (a b : Moment) : Bool :=
  match a.offset, b.offset with
  | none, none => a.localMicroseconds = b.localMicroseconds
  | some p, some q =>
    a.localMicroseconds - p * 1000000 = b.localMicroseconds - q * 1000000
  | _, _ => false

end Moment

end LoadPlan
