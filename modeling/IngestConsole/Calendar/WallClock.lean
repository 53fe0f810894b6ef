import IngestConsole.Calendar.Date
import IngestConsole.Numeral.Decimal

/-!
# Wall clocks

A wall clock shows an instant at a fixed offset from universal time.  Instants are counted in
nanoseconds from 1970-01-01; the clock shows whole seconds and rounds down.
-/

set_option autoImplicit false

namespace IngestConsole.Calendar

open Numeral

/-- An offset from universal time, in seconds. -/
abbrev Offset := Int

/-- Nanoseconds in a second. -/
def nanosPerSecond : Int := 1000000000

/-- Nanoseconds in a millisecond. -/
def nanosPerMilli : Int := 1000000

/-- Seconds in a day. -/
def secondsPerDay : Int := 86400

/-- A date with a time of day. -/
structure DateTime where
  date : Date
  hour : Nat
  minute : Nat
  second : Nat
  deriving DecidableEq, Repr

namespace DateTime

/-- The date and time `n` seconds after 1970-01-01. -/
def ofSeconds (n : Int) : DateTime :=
  let ofDay := (n % secondsPerDay).toNat
  ⟨.ofDayNumber (n / secondsPerDay), ofDay / 3600, ofDay % 3600 / 60, ofDay % 60⟩

/-- The seconds from 1970-01-01 to a date and time. -/
def toSeconds (t : DateTime) : Int :=
  t.date.dayNumber * secondsPerDay + t.hour * 3600 + t.minute * 60 + t.second

/-- The numeral of a year: at least four digits, after a minus sign if it is negative. -/
def yearText (year : Int) : List Char :=
  (if year < 0 then ['-'] else []) ++ padded 4 year.natAbs

/-- A date and time in the form `YYYY-MM-DD hh:mm:ss`. -/
def text (t : DateTime) : String :=
  String.ofList <|
    yearText t.date.year ++ '-' :: padded 2 t.date.month ++ '-' :: padded 2 t.date.day
      ++ ' ' :: padded 2 t.hour ++ ':' :: padded 2 t.minute ++ ':' :: padded 2 t.second

end DateTime

/-- The years that a clock can show reach this far in both directions. -/
def maxYear : Int := 9999

/-- What a wall clock at an offset shows at an instant; nothing outside the years it can show. -/
def wallClock (nanos : Int) (offset : Offset) : String :=
  let t := DateTime.ofSeconds ((nanos + offset * nanosPerSecond) / nanosPerSecond)
  if -maxYear ≤ t.date.year ∧ t.date.year ≤ maxYear then t.text else ""

end IngestConsole.Calendar
