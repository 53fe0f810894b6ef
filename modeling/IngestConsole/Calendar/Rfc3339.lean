import IngestConsole.Calendar.WallClock

/-!
# Dates and times of RFC 3339

Reads texts such as `2024-01-02T03:04:05.5+08:00`.  Any one ASCII character may separate the date
from the time, a fraction may have any number of digits, and a leap second is read as the last
nanosecond before it; it may only be the last second of a month.
-/

set_option autoImplicit false

namespace IngestConsole.Calendar

open Numeral

/-- What is left of a text after one given character. -/
def afterChar? (c : Char) : List Char → Option (List Char)
  | d :: rest => if d = c then some rest else none
  | [] => none

/-- Reads exactly `n` digits. -/
def readDigits? : Nat → List Char → Option (List Char × List Char)
  | 0, s => some ([], s)
  | n + 1, c :: rest =>
    if c.isDigit then (readDigits? n rest).map fun r => (c :: r.1, r.2) else none
  | _ + 1, [] => none

/-- Reads a numeral of exactly `n` digits. -/
def readNumeral? (n : Nat) (s : List Char) : Option (Nat × List Char) :=
  (readDigits? n s).map fun r => (ofDigits r.1, r.2)

/-- The nanoseconds of a fraction; digits after the ninth do not count. -/
def fractionNanos (ds : List Char) : Nat :=
  ofDigits (ds ++ List.replicate (9 - ds.length) '0' |>.take 9)

/-- Reads an optional fraction of a second as nanoseconds. -/
def readFraction? : List Char → Option (Nat × List Char)
  | '.' :: rest =>
    let ds := rest.takeWhile Char.isDigit
    if ds.isEmpty then none else some (fractionNanos ds, rest.dropWhile Char.isDigit)
  | s => some (0, s)

/-- Reads an offset in seconds: `Z`, or a sign with hours and minutes. -/
def readOffset? : List Char → Option (Offset × List Char)
  | [] => none
  | c :: rest =>
    if c = 'Z' ∨ c = 'z' then some (0, rest)
    else if c = '+' ∨ c = '-' then do
      let (hours, rest) ← readNumeral? 2 rest
      guard (hours ≤ 23)
      let rest ← afterChar? ':' rest
      let (minutes, rest) ← readNumeral? 2 rest
      guard (minutes ≤ 59)
      let seconds : Int := hours * 3600 + minutes * 60
      pure (if c = '-' then -seconds else seconds, rest)
    else none

/-- Reads a date. -/
def readDate? (s : List Char) : Option (Date × List Char) := do
  let (year, s) ← readNumeral? 4 s
  let s ← afterChar? '-' s
  let (month, s) ← readNumeral? 2 s
  let s ← afterChar? '-' s
  let (day, s) ← readNumeral? 2 s
  let date : Date := ⟨year, month, day⟩
  guard date.isValid
  pure (date, s)

/-- A second of universal time that a leap second may follow: the last one of a month, within the
years that a clock can show. -/
def precedesLeap (seconds : Int) : Bool :=
  let t := DateTime.ofSeconds seconds
  t.hour == 23 && t.minute == 59 && t.second == 59
    && t.date.day == monthLength t.date.year t.date.month
    && -maxYear ≤ t.date.year && t.date.year ≤ maxYear

/-- Drops the character between date and time. -/
def afterSeparator? : List Char → Option (List Char)
  | c :: rest => if c.toNat < 128 then some rest else none
  | [] => none

/-- The instant that a text denotes, in nanoseconds from 1970-01-01. -/
def readInstant? (s : List Char) : Option Int := do
  let (date, s) ← readDate? s
  let s ← afterSeparator? s
  let (hour, s) ← readNumeral? 2 s
  let s ← afterChar? ':' s
  let (minute, s) ← readNumeral? 2 s
  let s ← afterChar? ':' s
  let (second, s) ← readNumeral? 2 s
  let (nanos, s) ← readFraction? s
  let (offset, s) ← readOffset? s
  guard s.isEmpty
  guard (hour ≤ 23 ∧ minute ≤ 59 ∧ second ≤ 60)
  let isLeap := second = 60
  let seconds := (DateTime.mk date hour minute (min second 59)).toSeconds - offset
  guard (!isLeap || precedesLeap seconds)
  pure (seconds * nanosPerSecond + (if isLeap then nanosPerSecond - 1 else nanos))

end IngestConsole.Calendar
