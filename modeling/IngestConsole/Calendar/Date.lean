/-!
# Calendar dates

Dates of the proleptic Gregorian calendar, with a year zero and negative years before it, and
their number counted in days from 1970-01-01.  Days are counted in years that start in March, so
that the leap day is the last day of a year.
-/

set_option autoImplicit false

namespace IngestConsole.Calendar

/-- A date. -/
structure Date where
  year : Int
  month : Nat
  day : Nat
  deriving DecidableEq, Repr

/-- A year is a leap year if four divides it, but of the centuries only every fourth is one. -/
def isLeapYear (year : Int) : Bool :=
  year % 4 = 0 && (year % 100 ≠ 0 || year % 400 = 0)

/-- The number of days of a month. -/
def monthLength (year : Int) (month : Nat) : Nat :=
  if month = 2 then (if isLeapYear year then 29 else 28)
  else if month = 4 ∨ month = 6 ∨ month = 9 ∨ month = 11 then 30
  else 31

/-- The month and the day exist in the year. -/
def Date.isValid (d : Date) : Bool :=
  1 ≤ d.month && d.month ≤ 12 && 1 ≤ d.day && d.day ≤ monthLength d.year d.month

/-- The days of a year that starts in March before the month `m`, where March is `0`. -/
def daysBeforeMonth (m : Int) : Int :=
  (153 * m + 2) / 5

/-- The days of `year` years that start in March. -/
def daysOfYears (year : Int) : Int :=
  365 * year + year / 4 - year / 100 + year / 400

/-- The number of days from 0000-03-01 to 1970-01-01. -/
def epochDay : Int := 719468

/-- The number of a date, counted in days from 1970-01-01. -/
def Date.dayNumber (d : Date) : Int :=
  let (year, m) : Int × Int :=
    if d.month ≤ 2 then (d.year - 1, d.month + 9) else (d.year, d.month - 3)
  daysOfYears year + daysBeforeMonth m + d.day - 1 - epochDay

/-- The date with a number. -/
def Date.ofDayNumber (n : Int) : Date :=
  let z := n + epochDay
  let era := z / 146097
  let dayOfEra := z % 146097
  let yearOfEra := (dayOfEra - dayOfEra / 1460 + dayOfEra / 36524 - dayOfEra / 146096) / 365
  let year := yearOfEra + era * 400
  let dayOfYear := dayOfEra - daysOfYears yearOfEra
  let m := (5 * dayOfYear + 2) / 153
  let day := (dayOfYear - daysBeforeMonth m + 1).toNat
  if m < 10 then ⟨year, (m + 3).toNat, day⟩ else ⟨year + 1, (m - 9).toNat, day⟩

end IngestConsole.Calendar
