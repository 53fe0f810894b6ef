import IngestConsole.Calendar.WallClock
import IngestConsole.Proofs.Calendar.DayNumbers
import IngestConsole.Proofs.Numeral.Padding
import Mathlib

/-!
# Texts of a clock

Within the years of four digits the date and the time of day that a clock shows exist, and the seconds
counted up to them are those of the instant.  Their texts have one form and are ordered like the
instants.
-/

set_option autoImplicit false

namespace IngestConsole.Calendar

open Numeral

/-! ## Years of four digits -/

/-- The second with which a year begins, counted from 1970-01-01. -/
def firstSecond (year : Nat) : Int :=
  ((daysBeforeYear year : Int) - daysBeforeYear 1970) * 86400

/-- The second lies in the years from 0000 to 9999. -/
structure InFourDigitYears (n : Int) : Prop where
  low : firstSecond 0 ≤ n
  high : n < firstSecond 10000

/-- The seconds of the years with four digits, from the year 0 to the year 9999, are an interval. -/
theorem inFourDigitYears_iff {n : Int} :
    InFourDigitYears n ↔ -62167219200 ≤ n ∧ n < 253402300800 := by
  have first : firstSecond 0 = -62167219200 := by
    rw [firstSecond, daysBeforeYear_eq, daysBeforeYear_eq]
    decide
  have last : firstSecond 10000 = 253402300800 := by
    rw [firstSecond, daysBeforeYear_eq, daysBeforeYear_eq]
    decide
  rw [← first, ← last]
  exact ⟨fun h => ⟨h.low, h.high⟩, fun h => ⟨h.1, h.2⟩⟩

namespace DateTime

/-- The date and the time of day exist, in a year of four digits. -/
structure Exists (t : DateTime) : Prop where
  year : 0 ≤ t.date.year ∧ t.date.year < 10000
  month : 1 ≤ t.date.month ∧ t.date.month ≤ 12
  day : 1 ≤ t.date.day ∧ t.date.day ≤ monthLength t.date.year t.date.month
  hour : t.hour < 24
  minute : t.minute < 60
  second : t.second < 60

/-- A point in time that exists has a date of the calendar. -/
theorem Exists.isValid {t : DateTime} (h : t.Exists) : t.date.isValid = true :=
  Date.isValid_iff.2 ⟨h.month, h.day⟩

/-- The date and time of a second in a year with four digits exist. -/
theorem exists_ofSeconds {n : Int} (h : InFourDigitYears n) : (ofSeconds n).Exists := by
  have valid := Date.isValid_ofDayNumber (n / secondsPerDay)
  obtain ⟨low, high⟩ := h
  rw [firstSecond] at low high
  obtain ⟨month, day⟩ := Date.isValid_iff.1 valid
  refine ⟨Date.year_bounds valid 0 10000 ?_ ?_, month, day, ?_, ?_, ?_⟩
  · rw [Date.dayNumber_ofDayNumber, secondsPerDay]
    omega
  · rw [Date.dayNumber_ofDayNumber, secondsPerDay]
    omega
  · simp only [ofSeconds, secondsPerDay]
    omega
  · simp only [ofSeconds]
    omega
  · simp only [ofSeconds]
    omega

/-! ## Counted seconds -/

/-- The seconds from 1970-01-01 to a date and time that is not before the year zero. -/
def countedSeconds (t : DateTime) : Int :=
  t.date.countedDays * 86400 + t.hour * 3600 + t.minute * 60 + t.second

/-- A second is got back from its date and time. -/
theorem toSeconds_ofSeconds (n : Int) : (ofSeconds n).toSeconds = n := by
  simp only [toSeconds, ofSeconds, Date.dayNumber_ofDayNumber, secondsPerDay]
  omega

/-- Counting days and seconds from the year 0 gives back the second. -/
theorem countedSeconds_ofSeconds {n : Int} (h : InFourDigitYears n) :
    (ofSeconds n).countedSeconds = n := by
  have present := exists_ofSeconds h
  rw [countedSeconds, Date.countedDays_eq present.isValid present.year.1]
  exact toSeconds_ofSeconds n

/-! ## The form of the texts -/

/-- The text has the form `YYYY-MM-DD hh:mm:ss`, with the numbers of the date and time. -/
def WrittenAs (t : DateTime) (s : String) : Prop :=
  ∃ year month day hour minute second : List Char,
    s.toList = year ++ '-' :: month ++ '-' :: day ++ ' ' :: hour ++ ':' :: minute ++ ':' :: second
      ∧ IsNumeral 4 year t.date.year.toNat ∧ IsNumeral 2 month t.date.month
      ∧ IsNumeral 2 day t.date.day ∧ IsNumeral 2 hour t.hour ∧ IsNumeral 2 minute t.minute
      ∧ IsNumeral 2 second t.second

/-- A written date and time has nineteen characters. -/
theorem WrittenAs.length {t : DateTime} {s : String} (h : t.WrittenAs s) : s.length = 19 := by
  obtain ⟨_, _, _, _, _, _, same, year, month, day, hour, minute, second⟩ := h
  rw [← String.length_toList, same]
  simp only [List.length_append, List.length_cons, year.length, month.length, day.length,
    hour.length, minute.length, second.length]

/-- No month has more than 31 days. -/
theorem monthLength_le (year : Int) (month : Nat) : monthLength year month ≤ 31 := by
  rw [monthLength]
  split
  · split <;> omega
  · split <;> omega

/-- The numbers of a date and time have at most the digits that are written. -/
theorem Exists.fits {t : DateTime} (h : t.Exists) :
    t.date.year.toNat < 10 ^ 4 ∧ t.date.month < 10 ^ 2 ∧ t.date.day < 10 ^ 2 ∧ t.hour < 10 ^ 2 ∧
      t.minute < 10 ^ 2 ∧ t.second < 10 ^ 2 := by
  have length := monthLength_le t.date.year t.date.month
  obtain ⟨year, month, day, hour, minute, second⟩ := h
  omega

/-- The text of a point in time that exists is its fields, each with its number of digits. -/
theorem Exists.toList_text {t : DateTime} (h : t.Exists) :
    t.text.toList = padded 4 t.date.year.toNat ++ '-' :: padded 2 t.date.month ++
      '-' :: padded 2 t.date.day ++ ' ' :: padded 2 t.hour ++ ':' :: padded 2 t.minute ++
      ':' :: padded 2 t.second := by
  have natural := h.year.1
  have same : t.date.year.natAbs = t.date.year.toNat := by omega
  rw [text, String.toList_ofList, yearText, if_neg (by omega), List.nil_append, same]

/-- A point in time that exists is written field by field. -/
theorem writtenAs_text {t : DateTime} (h : t.Exists) : t.WrittenAs t.text := by
  obtain ⟨year, month, day, hour, minute, second⟩ := h.fits
  exact ⟨_, _, _, _, _, _, h.toList_text, isNumeral_padded (by decide) year,
    isNumeral_padded (by decide) month, isNumeral_padded (by decide) day,
    isNumeral_padded (by decide) hour, isNumeral_padded (by decide) minute,
    isNumeral_padded (by decide) second⟩

/-! ## The order of the texts -/

/-- The first number in which `t` and `u` differ is smaller in `t`. -/
def Before (t u : DateTime) : Prop :=
  t.date.year < u.date.year ∨ t.date.year = u.date.year ∧
    (t.date.month < u.date.month ∨ t.date.month = u.date.month ∧
      (t.date.day < u.date.day ∨ t.date.day = u.date.day ∧
        (t.hour < u.hour ∨ t.hour = u.hour ∧
          (t.minute < u.minute ∨ t.minute = u.minute ∧ t.second < u.second))))

/-- An earlier date makes a point in time earlier. -/
theorem before_of_date {t u : DateTime} (h : t.date.Before u.date) : t.Before u := by
  rcases h with year | ⟨year, month | ⟨month, day⟩⟩
  · exact .inl year
  · exact .inr ⟨year, .inl month⟩
  · exact .inr ⟨year, .inr ⟨month, .inl day⟩⟩

/-- An earlier second has an earlier date and time. -/
theorem before_ofSeconds {n n' : Int} (less : n < n') : (ofSeconds n).Before (ofSeconds n') := by
  have day : n / secondsPerDay ≤ n' / secondsPerDay := by
    rw [secondsPerDay]
    omega
  rcases Int.lt_or_eq_of_le day with earlier | same
  · exact before_of_date (Date.before_ofDayNumber earlier)
  · have time := less
    rw [secondsPerDay] at same
    simp only [Before, ofSeconds, secondsPerDay, same, true_and, Nat.lt_irrefl, Int.lt_irrefl, false_or]
    omega

/-- Of two points in time that exist, the earlier has the smaller text. -/
theorem Before.text_lt {t u : DateTime} (h : t.Before u) (present : t.Exists)
    (present' : u.Exists) : t.text < u.text := by
  obtain ⟨year, month, day, hour, minute, second⟩ := present.fits
  obtain ⟨year', month', day', hour', minute', second'⟩ := present'.fits
  have natural := present.year.1
  rw [String.lt_iff, present.toList_text, present'.toList_text]
  simp only [List.append_assoc, List.cons_append]
  refine padded_append_lt (by decide) year year' ?_
  refine h.imp (by omega) (And.imp (by omega) fun h => List.cons_lt_cons_self.2 ?_)
  refine padded_append_lt (by decide) month month' ?_
  refine h.imp_right (And.imp_right fun h => List.cons_lt_cons_self.2 ?_)
  refine padded_append_lt (by decide) day day' ?_
  refine h.imp_right (And.imp_right fun h => List.cons_lt_cons_self.2 ?_)
  refine padded_append_lt (by decide) hour hour' ?_
  refine h.imp_right (And.imp_right fun h => List.cons_lt_cons_self.2 ?_)
  refine padded_append_lt (by decide) minute minute' ?_
  refine h.imp_right (And.imp_right fun h => List.cons_lt_cons_self.2 ?_)
  exact (isNumeral_padded (by decide) second).lt (isNumeral_padded (by decide) second') h

/-- The texts of seconds are in the order of the seconds, in years with four digits. -/
theorem text_strictMonoOn :
    StrictMonoOn (fun n => (ofSeconds n).text) {n | InFourDigitYears n} := by
  intro n years n' years' less
  exact (before_ofSeconds less).text_lt (exists_ofSeconds years) (exists_ofSeconds years')

end DateTime

/-! ## Wall clocks -/

/-- A wall clock shows the second of an instant, rounded down and shifted by the offset. -/
theorem second_of_wallClock (nanos : Int) (offset : Offset) :
    (nanos + offset * nanosPerSecond) / nanosPerSecond = nanos / nanosPerSecond + offset :=
  Int.add_mul_ediv_right _ _ (by decide)

/-- The clock shows the same within one second. -/
theorem wallClock_congr {nanos nanos' : Int}
    (second : nanos / nanosPerSecond = nanos' / nanosPerSecond) (offset : Offset) :
    wallClock nanos offset = wallClock nanos' offset := by
  rw [wallClock, wallClock, second_of_wallClock, second_of_wallClock, second]

/-- In years with four digits the clock shows the text of the second. -/
theorem wallClock_eq {nanos : Int} {offset : Offset}
    (years : InFourDigitYears (nanos / nanosPerSecond + offset)) :
    wallClock nanos offset = (DateTime.ofSeconds (nanos / nanosPerSecond + offset)).text := by
  have year := (DateTime.exists_ofSeconds years).year
  rw [wallClock, second_of_wallClock]
  exact if_pos (by rw [maxYear]; omega)

/-! ## The reach of a clock -/

/-- A date and a time of day exist, in a year that a clock can show, up to which there are `n`
seconds. -/
def OnCalendar (n : Int) : Prop :=
  ∃ t : DateTime, t.date.isValid = true ∧ (-maxYear ≤ t.date.year ∧ t.date.year ≤ maxYear)
    ∧ (t.hour < 24 ∧ t.minute < 60 ∧ t.second < 60) ∧ t.toSeconds = n

/-- The years that a clock can show begin 4371587 days before 1970 and end 2932897 days after its
beginning. -/
theorem year_within_iff {d : Date} (valid : d.isValid = true) :
    (-maxYear ≤ d.year ∧ d.year ≤ maxYear) ↔ -4371587 ≤ d.dayNumber ∧ d.dayNumber < 2932897 := by
  have first : daysOfYears (-maxYear - 1) - 719162 = -4371587 := by decide
  have last : daysOfYears (maxYear + 1 - 1) - 719162 = 2932897 := by decide
  rw [← Int.not_lt, ← Int.lt_add_one_iff, Date.year_lt_iff valid, Date.year_lt_iff valid, first, last,
    Int.not_lt]

/-- The seconds that the calendar reaches are an interval. -/
theorem onCalendar_iff {n : Int} :
    OnCalendar n ↔ -377705116800 ≤ n ∧ n < 253402300800 := by
  constructor
  · rintro ⟨t, valid, year, time, rfl⟩
    rw [year_within_iff valid] at year
    rw [DateTime.toSeconds, secondsPerDay]
    omega
  · intro bounds
    refine ⟨DateTime.ofSeconds n, Date.isValid_ofDayNumber _, ?_, ?_, DateTime.toSeconds_ofSeconds n⟩
    · rw [DateTime.ofSeconds, year_within_iff (Date.isValid_ofDayNumber _),
        Date.dayNumber_ofDayNumber, secondsPerDay]
      omega
    · simp only [DateTime.ofSeconds, secondsPerDay]
      omega

/-- The calendar reaches the seconds whose year lies within its years. -/
theorem onCalendar_iff_year {n : Int} :
    OnCalendar n ↔
      -maxYear ≤ (DateTime.ofSeconds n).date.year ∧ (DateTime.ofSeconds n).date.year ≤ maxYear := by
  rw [onCalendar_iff, DateTime.ofSeconds, year_within_iff (Date.isValid_ofDayNumber _),
    Date.dayNumber_ofDayNumber, secondsPerDay]
  omega

/-- The clock shows the text of a second that the calendar reaches. -/
theorem wallClock_of_onCalendar {nanos : Int} {offset : Offset}
    (shown : OnCalendar (nanos / nanosPerSecond + offset)) :
    wallClock nanos offset = (DateTime.ofSeconds (nanos / nanosPerSecond + offset)).text := by
  rw [wallClock, second_of_wallClock]
  exact if_pos (onCalendar_iff_year.1 shown)

/-- The clock shows nothing of a second that the calendar does not reach. -/
theorem wallClock_of_not_onCalendar {nanos : Int} {offset : Offset}
    (beyond : ¬OnCalendar (nanos / nanosPerSecond + offset)) : wallClock nanos offset = "" := by
  rw [wallClock, second_of_wallClock]
  exact if_neg (mt onCalendar_iff_year.2 beyond)

end IngestConsole.Calendar
