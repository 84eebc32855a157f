import AzcRepair.Text.Numeral

/-!
# Dates and instants

Dates of the Gregorian calendar, in both directions of time, and instants counted in seconds from
the start of 1970. Everything is in universal time.

* `Date.toDays` and `Date.ofDays` go between a date and its day number.
* `Instant.stamp` is the form used in file names.
* `Instant.iso` is the form used in messages.
-/

namespace AzcRepair

/-- A date of the Gregorian calendar. -/
structure Date where
  year : Int
  month : Nat
  day : Nat
  deriving DecidableEq, Repr

namespace Date

/-- The year has a 29th of February. -/
def isLeap (year : Int) : Bool :=
  year % 4 = 0 && (year % 100 ≠ 0 || year % 400 = 0)

def daysInMonth (year : Int) (month : Nat) : Nat :=
  if month = 2 then (if isLeap year then 29 else 28)
  else if month = 4 ∨ month = 6 ∨ month = 9 ∨ month = 11 then 30 else 31

def isValid (date : Date) : Bool :=
  1 ≤ date.month && date.month ≤ 12 && 1 ≤ date.day &&
    date.day ≤ daysInMonth date.year date.month

/-- The day number of a date; the first day of 1970 is zero. Years are counted from March, so that
the leap day is the last day of a year. -/
def toDays (date : Date) : Int :=
  let year := if date.month ≤ 2 then date.year - 1 else date.year
  -- 400 years have 146097 days, whatever the first of them is
  let era := year.fdiv 400
  let yearOfEra := year - era * 400
  let month : Int := if date.month ≤ 2 then date.month + 9 else date.month - 3
  -- the months from March on have 153 days in every five
  let dayOfYear := (153 * month + 2).fdiv 5 + date.day - 1
  let dayOfEra := yearOfEra * 365 + yearOfEra.fdiv 4 - yearOfEra.fdiv 100 + dayOfYear
  era * 146097 + dayOfEra - 719468

/-- The date with a day number. It takes the same way back: the day of a period of 400 years, then
the year in it, then the day of a year that begins in March. -/
def ofDays (days : Int) : Date :=
  let shifted := days + 719468
  let era := shifted.fdiv 146097
  let dayOfEra := shifted - era * 146097
  let yearOfEra :=
    (dayOfEra - dayOfEra.fdiv 1460 + dayOfEra.fdiv 36524 - dayOfEra.fdiv 146096).fdiv 365
  let dayOfYear := dayOfEra - (365 * yearOfEra + yearOfEra.fdiv 4 - yearOfEra.fdiv 100)
  let month := (5 * dayOfYear + 2).fdiv 153
  let day := dayOfYear - (153 * month + 2).fdiv 5 + 1
  let year := yearOfEra + era * 400
  -- January and February belong to the year behind
  if month < 10 then ⟨year, (month + 3).toNat, day.toNat⟩
  else ⟨year + 1, (month - 9).toNat, day.toNat⟩

/-- Years are written with four digits, and with a sign when they need more or lie before zero. -/
def yearText (year : Int) : String :=
  if 0 ≤ year ∧ year ≤ 9999 then Text.padded 4 year.toNat
  else (if year < 0 then "-" else "+") ++ Text.padded 4 year.natAbs

end Date

/-- A point in time: seconds since the start of 1970, and nanoseconds. Within a leap second the
nanoseconds exceed a second. -/
structure Instant where
  seconds : Int
  nanos : Nat
  deriving DecidableEq, Repr, Inhabited

namespace Instant

def perSecond : Nat := 1000000000

/-- The instant so many milliseconds after the start of 1970. -/
def ofMillis (ms : Int) : Instant :=
  ⟨ms.fdiv 1000, (ms.fmod 1000).toNat * 1000000⟩

def toMillis (instant : Instant) : Int :=
  instant.seconds * 1000 + (instant.nanos / 1000000 : Nat)

def plusSeconds (instant : Instant) (seconds : Int) : Instant :=
  { instant with seconds := instant.seconds + seconds }

def atMost (a b : Instant) : Bool :=
  a.seconds < b.seconds || (a.seconds = b.seconds && a.nanos ≤ b.nanos)

def date (instant : Instant) : Date :=
  .ofDays (instant.seconds.fdiv 86400)

def secondOfDay (instant : Instant) : Nat :=
  (instant.seconds.fmod 86400).toNat

/-- The form used in file names, down to milliseconds, such as `20240501_123015_007`. -/
def stamp (instant : Instant) : String :=
  let date := instant.date
  let second := instant.secondOfDay
  Date.yearText date.year ++ Text.padded 2 date.month ++ Text.padded 2 date.day ++ "_" ++
    Text.padded 2 (second / 3600) ++ Text.padded 2 (second / 60 % 60) ++
    Text.padded 2 (second % 60 + instant.nanos / perSecond) ++ "_" ++
    Text.padded 3 (instant.nanos % perSecond / 1000000)

/-- The form used in names on the service, down to seconds, such as `20240501123015`. -/
def compact (instant : Instant) : String :=
  let date := instant.date
  let second := instant.secondOfDay
  Date.yearText date.year ++ Text.padded 2 date.month ++ Text.padded 2 date.day ++
    Text.padded 2 (second / 3600) ++ Text.padded 2 (second / 60 % 60) ++
    Text.padded 2 (second % 60 + instant.nanos / perSecond)

/-- The fraction of a second in none, three, six or nine digits, whatever is exact. -/
def fractionText (nanos : Nat) : String :=
  if nanos = 0 then ""
  else if nanos % 1000000 = 0 then "." ++ Text.padded 3 (nanos / 1000000)
  else if nanos % 1000 = 0 then "." ++ Text.padded 6 (nanos / 1000)
  else "." ++ Text.padded 9 nanos

/-- The form used in messages, such as `2030-01-01T00:00:00.500Z`. -/
def iso (instant : Instant) : String :=
  let date := instant.date
  let second := instant.secondOfDay
  Date.yearText date.year ++ "-" ++ Text.padded 2 date.month ++ "-" ++ Text.padded 2 date.day ++
    "T" ++ Text.padded 2 (second / 3600) ++ ":" ++ Text.padded 2 (second / 60 % 60) ++ ":" ++
    Text.padded 2 (second % 60 + instant.nanos / perSecond) ++
    fractionText (instant.nanos % perSecond) ++ "Z"

end Instant

end AzcRepair
