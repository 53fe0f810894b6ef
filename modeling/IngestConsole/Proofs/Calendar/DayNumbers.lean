import IngestConsole.Calendar.Date
import Mathlib.Algebra.BigOperators.Intervals
import Mathlib.Algebra.Order.BigOperators.Group.Finset
import Mathlib.Tactic.IntervalCases

/-!
# Days of the calendar

Every number of days from 1970-01-01 is the number of one date that exists.  The numbers count the
lengths of the years and months before a date, and so dates are ordered like their numbers.
-/

set_option autoImplicit false

namespace IngestConsole.Calendar

open Finset

/-! ## Cycles of four hundred years -/

/-- The day `n` of a cycle of four hundred years stands in the century `c`, there in the group `q` of
four years, there in the year `r`, after `d` days of that year.  Only the last year of a group has a
day more than the others, but for the last group of each century other than the last. -/
structure InCycle (n c q r d : Int) : Prop where
  sum : n = 36524 * c + 1461 * q + 365 * r + d
  century : 0 ≤ c ∧ c ≤ 3
  group : 0 ≤ q ∧ q ≤ 24
  year : 0 ≤ r ∧ r ≤ 3
  day : 0 ≤ d ∧ d ≤ 365
  leap : d = 365 → r = 3 ∧ (q = 24 → c = 3)

/-- The last century and the last year of a group are the ones with a day more, so a quotient that is
too large stands for them. -/
theorem exists_inCycle {n : Int} (low : 0 ≤ n) (high : n < 146097) :
    ∃ c q r d, InCycle n c q r d := by
  obtain ⟨c, rest, sum, century, small, last⟩ : ∃ c rest, n = 36524 * c + rest ∧
      (0 ≤ c ∧ c ≤ 3) ∧ (0 ≤ rest ∧ rest ≤ 36524) ∧ (rest = 36524 → c = 3) := by
    refine ⟨min (n / 36524) 3, n - 36524 * min (n / 36524) 3, ?_, ?_, ?_, ?_⟩ <;> omega
  obtain ⟨r, d, sum', year, day, last'⟩ : ∃ r d, rest % 1461 = 365 * r + d ∧
      (0 ≤ r ∧ r ≤ 3) ∧ (0 ≤ d ∧ d ≤ 365) ∧ (d = 365 → r = 3) := by
    refine ⟨min (rest % 1461 / 365) 3, rest % 1461 - 365 * min (rest % 1461 / 365) 3, ?_, ?_, ?_, ?_⟩
      <;> omega
  exact ⟨c, rest / 1461, r, d, by omega, century, by omega, year, day, by omega⟩

namespace InCycle

variable {n c q r d : Int}

/-- The days of the years before a year, within a cycle of 400 years. -/
theorem daysOfYears_eq (h : InCycle n c q r d) :
    daysOfYears (100 * c + 4 * q + r) = n - d := by
  obtain ⟨sum, century, group, year, day, -⟩ := h
  rw [daysOfYears]
  omega

/-- The quotients correct the days for leap days: `n / 1460` is one too large exactly in those days
that lie so far behind that the year is not changed. -/
theorem yearOfEra_eq (h : InCycle n c q r d) :
    (n - n / 1460 + n / 36524 - n / 146096) / 365 = 100 * c + 4 * q + r := by
  obtain ⟨sum, century, group, year, day, leap⟩ := h
  have centuries : n / 36524 - n / 146096 = c := by
    by_cases last : n = 146096
    · omega
    · have : 1461 * q + 365 * r + d < 36524 := by
        by_cases extra : d = 365 <;> omega
      omega
  have groups :
      n / 1460 = 25 * c + q + (if 1460 ≤ 24 * c + q + 365 * r + d then 1 else 0) := by
    split <;> omega
  split at groups <;> omega

end InCycle

/-- Every 400 years have the same number of days. -/
theorem daysOfYears_add_cycles (year cycles : Int) :
    daysOfYears (year + cycles * 400) = daysOfYears year + 146097 * cycles := by
  rw [daysOfYears, daysOfYears]
  omega

/-! ## Dates that exist -/

/-- A date is one of the calendar if its month and its day exist. -/
theorem Date.isValid_iff {d : Date} : d.isValid = true ↔
    (1 ≤ d.month ∧ d.month ≤ 12) ∧ 1 ≤ d.day ∧ d.day ≤ monthLength d.year d.month := by
  simp only [isValid, Bool.and_eq_true, decide_eq_true_eq]
  tauto

/-- A year is a leap year as the Gregorian calendar says. -/
theorem isLeapYear_iff {year : Int} : isLeapYear year = true ↔
    year % 4 = 0 ∧ (year % 100 ≠ 0 ∨ year % 400 = 0) := by
  simp only [isLeapYear, Bool.and_eq_true, Bool.or_eq_true, decide_eq_true_eq]

/-- The day `n` stands in the year that starts in March of `year`, there in the month `m`, after `d`
days of that year. -/
structure MarchDay (n year m d : Int) : Prop where
  number : n + epochDay = daysOfYears year + d
  month : 0 ≤ m ∧ m ≤ 11
  low : daysBeforeMonth m ≤ d
  high : d < daysBeforeMonth (m + 1)
  bound : d ≤ 365
  leap : d = 365 → isLeapYear (year + 1) = true

/-- The date of a day in a year that starts in March. -/
def marchDate (year m d : Int) : Date :=
  let day := (d - daysBeforeMonth m + 1).toNat
  if m < 10 then ⟨year, (m + 3).toNat, day⟩ else ⟨year + 1, (m - 9).toNat, day⟩

/-- A month of a year that starts in March ends where the next one begins; the last month ends with
the year. -/
theorem monthLength_march {m : Int} (low : 0 ≤ m) (high : m ≤ 10) (year d : Int) :
    (monthLength (marchDate year m d).year (marchDate year m d).month : Int) =
      daysBeforeMonth (m + 1) - daysBeforeMonth m := by
  interval_cases m <;> rfl

/-- A month counted from March is one of the twelve. -/
theorem marchDate_month {m : Int} (low : 0 ≤ m) (high : m ≤ 11) (year d : Int) :
    1 ≤ (marchDate year m d).month ∧ (marchDate year m d).month ≤ 12 := by
  rw [marchDate]
  split
  · simp only
    omega
  · simp only
    omega

/-- The day of a month is what is left of the days of a year that starts in March. -/
theorem marchDate_day (year m d : Int) :
    (marchDate year m d).day = (d - daysBeforeMonth m + 1).toNat := by
  rw [marchDate]
  split <;> rfl

/-- Every day has a year, a month and a day of the calendar whose years start in March, and from
these its date is made. -/
theorem exists_marchDay (n : Int) :
    ∃ year m d, MarchDay n year m d ∧ Date.ofDayNumber n = marchDate year m d := by
  obtain ⟨c, q, r, d, cycle⟩ :=
    exists_inCycle (n := (n + epochDay) % 146097) (by omega) (by omega)
  have days := cycle.daysOfYears_eq
  refine ⟨100 * c + 4 * q + r + (n + epochDay) / 146097 * 400, (5 * d + 2) / 153, d, ?_, ?_⟩
  · obtain ⟨-, century, group, year, day, leap⟩ := cycle
    refine ⟨?_, ?_, ?_, ?_, day.2, fun last => ?_⟩
    · rw [daysOfYears_add_cycles, days]
      omega
    · omega
    · rw [daysBeforeMonth]
      omega
    · rw [daysBeforeMonth]
      omega
    · have extra := leap last
      rw [isLeapYear_iff]
      omega
  · have dayOfYear :
        (n + epochDay) % 146097 - daysOfYears (100 * c + 4 * q + r) = d := by
      rw [days]
      omega
    simp only [Date.ofDayNumber, cycle.yearOfEra_eq, dayOfYear, marchDate]

namespace MarchDay

variable {n year m d : Int}

/-- The date of a day is one of the calendar. -/
theorem isValid (h : MarchDay n year m d) : (marchDate year m d).isValid = true := by
  obtain ⟨-, ⟨first, last⟩, low, high, bound, leap⟩ := h
  rw [Date.isValid_iff, marchDate_day]
  refine ⟨marchDate_month first last year d, by omega, ?_⟩
  by_cases february : m = 11
  · subst february
    have length : monthLength (marchDate year 11 d).year (marchDate year 11 d).month =
        if isLeapYear (year + 1) then 29 else 28 := rfl
    rw [length, daysBeforeMonth]
    by_cases extra : d = 365
    · rw [if_pos (leap extra)]
      omega
    · split <;> omega
  · have length := monthLength_march first (by omega) year d
    omega

/-- A day is got back from the number of its date. -/
theorem dayNumber (h : MarchDay n year m d) : (marchDate year m d).dayNumber = n := by
  obtain ⟨number, ⟨first, last⟩, low, -, -, -⟩ := h
  rw [marchDate]
  split
  · have month : ((m + 3).toNat : Int) - 3 = m := by omega
    rw [Date.dayNumber, if_neg (by simp only; omega)]
    simp only [month]
    omega
  · have month : ((m - 9).toNat : Int) + 9 = m := by omega
    rw [Date.dayNumber, if_pos (by simp only; omega)]
    simp only [month, Int.add_sub_cancel]
    omega

end MarchDay

/-- The date of any day is one of the calendar. -/
theorem Date.isValid_ofDayNumber (n : Int) : (Date.ofDayNumber n).isValid = true := by
  obtain ⟨year, m, d, day, same⟩ := exists_marchDay n
  rw [same]
  exact day.isValid

/-- Any day is got back from the number of its date. -/
theorem Date.dayNumber_ofDayNumber (n : Int) : (Date.ofDayNumber n).dayNumber = n := by
  obtain ⟨year, m, d, day, same⟩ := exists_marchDay n
  rw [same]
  exact day.dayNumber

/-! ## Counted days -/

/-- The number of days of a year. -/
def yearLength (year : Int) : Nat :=
  ∑ m ∈ Icc 1 12, monthLength year m

/-- The days of the years from the year zero up to a year. -/
def daysBeforeYear (year : Nat) : Nat :=
  ∑ y ∈ range year, yearLength y

/-- The days of a year before a date. -/
def Date.daysInYear (d : Date) : Nat :=
  ∑ m ∈ Ico 1 d.month, monthLength d.year m + (d.day - 1)

/-- The days from 1970-01-01 to a date that is not before the year zero. -/
def Date.countedDays (d : Date) : Int :=
  daysBeforeYear d.year.toNat + d.daysInYear - daysBeforeYear 1970

/-- One year more is 365 days more, and another in a leap year. -/
theorem daysOfYears_eq (year : Int) :
    daysOfYears year = daysOfYears (year - 1) + 365 + (isLeapYear year).toNat := by
  by_cases leap : isLeapYear year = true
  · have divides := isLeapYear_iff.1 leap
    rw [leap, Bool.toNat_true, daysOfYears, daysOfYears]
    omega
  · have divides := mt isLeapYear_iff.2 leap
    rw [Bool.eq_false_of_not_eq_true leap, Bool.toNat_false, daysOfYears, daysOfYears]
    omega

/-- The days of the months before a month. -/
theorem sum_monthLength (year : Int) (month : Nat) (low : 1 ≤ month) (high : month ≤ 13) :
    ((∑ m ∈ Ico 1 month, monthLength year m : Nat) : Int) =
      if month ≤ 2 then 31 * ((month : Int) - 1)
      else daysBeforeMonth ((month : Int) - 3) + 59 + (isLeapYear year).toNat := by
  cases leap : isLeapYear year <;>
    interval_cases month <;> simp [sum_Ico_succ_top, monthLength, leap, daysBeforeMonth]

/-- The length of a year is what it adds to the days of the years. -/
theorem yearLength_eq (year : Int) :
    (yearLength year : Int) = daysOfYears year - daysOfYears (year - 1) := by
  have months : (Icc 1 12 : Finset Nat) = Ico 1 13 := rfl
  have lastMonth : daysBeforeMonth ((13 : Nat) - 3) = 306 := rfl
  rw [yearLength, months, sum_monthLength year 13 (by decide) (by decide), if_neg (by decide),
    lastMonth, daysOfYears_eq year]
  omega

/-- The days counted year by year from the year 0 are those that the formula gives. -/
theorem daysBeforeYear_eq (year : Nat) :
    (daysBeforeYear year : Int) = daysOfYears (year - 1) + 366 := by
  induction year with
  | zero => rfl
  | succ year ih =>
    rw [daysBeforeYear, sum_range_succ, ← daysBeforeYear, Nat.cast_add, ih, yearLength_eq]
    push_cast
    rw [Int.add_sub_cancel]
    omega

/-- The number of a date is made of the days of the years before and of the days in its year. -/
theorem Date.dayNumber_eq {d : Date} (valid : d.isValid = true) :
    d.dayNumber = daysOfYears (d.year - 1) + d.daysInYear - 719162 := by
  obtain ⟨⟨low, high⟩, first, -⟩ := Date.isValid_iff.1 valid
  rw [dayNumber, daysInYear, Nat.cast_add, sum_monthLength d.year d.month low (by omega)]
  by_cases early : d.month ≤ 2
  · simp only [if_pos early]
    rw [daysBeforeMonth, epochDay]
    omega
  · simp only [if_neg early, epochDay]
    have := daysOfYears_eq d.year
    omega

/-- Counting days from the year 0 gives the number of the date. -/
theorem Date.countedDays_eq {d : Date} (valid : d.isValid = true) (natural : 0 ≤ d.year) :
    d.countedDays = d.dayNumber := by
  rw [countedDays, daysBeforeYear_eq, daysBeforeYear_eq, dayNumber_eq valid,
    Int.toNat_of_nonneg natural]
  have epoch : daysOfYears ((1970 : Nat) - 1) = 719162 := by decide
  rw [epoch]
  omega

/-! ## The order of dates -/

/-- Later years have more days before them. -/
theorem daysOfYears_mono {year year' : Int} (le : year ≤ year') :
    daysOfYears year ≤ daysOfYears year' := by
  rw [daysOfYears, daysOfYears]
  omega

namespace Date

/-- The days before a date do not reach the end of its month. -/
theorem daysInYear_lt {d : Date} (valid : d.isValid = true) {month : Nat} (later : d.month < month) :
    d.daysInYear < ∑ m ∈ Ico 1 month, monthLength d.year m := by
  obtain ⟨⟨low, -⟩, first, last⟩ := isValid_iff.1 valid
  calc d.daysInYear
      < ∑ m ∈ Ico 1 d.month, monthLength d.year m + monthLength d.year d.month := by
        rw [daysInYear]
        omega
    _ = ∑ m ∈ Ico 1 (d.month + 1), monthLength d.year m := (sum_Ico_succ_top low _).symm
    _ ≤ ∑ m ∈ Ico 1 month, monthLength d.year m :=
        sum_le_sum_of_subset (Ico_subset_Ico_right later)

/-- A date lies before the end of its year. -/
theorem dayNumber_lt_nextYear {d : Date} (valid : d.isValid = true) :
    d.dayNumber < daysOfYears d.year - 719162 := by
  have inside : d.daysInYear < yearLength d.year :=
    daysInYear_lt valid (Nat.lt_succ_of_le (isValid_iff.1 valid).1.2)
  have length := yearLength_eq d.year
  rw [dayNumber_eq valid]
  omega

/-- A date lies before the first day of a year exactly if its year does. -/
theorem year_lt_iff {d : Date} (valid : d.isValid = true) (year : Int) :
    d.year < year ↔ d.dayNumber < daysOfYears (year - 1) - 719162 := by
  constructor
  · intro earlier
    have next := dayNumber_lt_nextYear valid
    have mono := daysOfYears_mono (show d.year ≤ year - 1 by omega)
    omega
  · intro before
    by_contra late
    have own := dayNumber_eq valid
    have mono := daysOfYears_mono (show year - 1 ≤ d.year - 1 by omega)
    omega

/-- The year of a date lies between two years if the date lies between their beginnings. -/
theorem year_bounds {d : Date} (valid : d.isValid = true) (low high : Nat)
    (notBefore : (daysBeforeYear low : Int) - daysBeforeYear 1970 ≤ d.dayNumber)
    (before : d.dayNumber < (daysBeforeYear high : Int) - daysBeforeYear 1970) :
    low ≤ d.year ∧ d.year < high := by
  have epoch : (daysBeforeYear 1970 : Int) = 719528 := daysBeforeYear_eq 1970
  rw [epoch, daysBeforeYear_eq] at notBefore before
  rw [← Int.not_lt, year_lt_iff valid, year_lt_iff valid]
  omega

/-- The date `d` comes before the date `e`. -/
def Before (d e : Date) : Prop :=
  d.year < e.year ∨
    d.year = e.year ∧ (d.month < e.month ∨ d.month = e.month ∧ d.day < e.day)

/-- Of two dates one is earlier, or they are the same. -/
theorem before_trichotomy (d e : Date) : d.Before e ∨ d = e ∨ e.Before d := by
  have same : d = e ↔ d.year = e.year ∧ d.month = e.month ∧ d.day = e.day := by
    cases d
    cases e
    simp
  rw [Before, Before, same]
  omega

/-- Of two dates of the calendar the earlier has the smaller number. -/
theorem Before.dayNumber_lt {d e : Date} (before : d.Before e) (valid : d.isValid = true)
    (valid' : e.isValid = true) : d.dayNumber < e.dayNumber := by
  rcases before with year | ⟨year, month | ⟨month, day⟩⟩
  · calc d.dayNumber
        < daysOfYears d.year - 719162 := dayNumber_lt_nextYear valid
      _ ≤ daysOfYears (e.year - 1) - 719162 :=
          Int.sub_le_sub_right (daysOfYears_mono (by omega)) _
      _ ≤ e.dayNumber := by
          rw [dayNumber_eq valid']
          omega
  · have inside : d.daysInYear < e.daysInYear := by
      calc d.daysInYear
          < ∑ m ∈ Ico 1 e.month, monthLength d.year m := daysInYear_lt valid month
        _ ≤ e.daysInYear := by
            rw [year]
            exact Nat.le_add_right _ _
    rw [dayNumber_eq valid, dayNumber_eq valid', year]
    omega
  · have first := (isValid_iff.1 valid).2.1
    rw [dayNumber_eq valid, dayNumber_eq valid', daysInYear, daysInYear, year, month]
    omega

/-- An earlier day has an earlier date. -/
theorem before_ofDayNumber {n n' : Int} (less : n < n') :
    (ofDayNumber n).Before (ofDayNumber n') := by
  rcases before_trichotomy (ofDayNumber n) (ofDayNumber n') with before | same | after
  · exact before
  · have number := congrArg dayNumber same
    rw [dayNumber_ofDayNumber, dayNumber_ofDayNumber] at number
    omega
  · have number := after.dayNumber_lt (isValid_ofDayNumber _) (isValid_ofDayNumber _)
    rw [dayNumber_ofDayNumber, dayNumber_ofDayNumber] at number
    omega

end Date

end IngestConsole.Calendar
