import IngestConsole.Calendar.Rfc3339
import IngestConsole.Proofs.Calendar.ClockTexts

/-!
# Stamps

A stamp is an instant as RFC 3339 writes it: a date and a time of day, maybe with a fraction of a
second, and the offset of the clock they were taken from.  Reading a stamp gives its instant.
-/

set_option autoImplicit false

namespace IngestConsole.Calendar

open Numeral

/-! ## The form of a stamp -/

/-- An offset as it is written: a letter for universal time, or a sign with hours and minutes. -/
inductive Zone
  | universal (letter : Char)
  | ahead (hours minutes : Nat)
  | behind (hours minutes : Nat)

namespace Zone

/-- The offset in seconds. -/
def offset : Zone → Offset
  | universal _ => 0
  | ahead hours minutes => hours * 3600 + minutes * 60
  | behind hours minutes => -(hours * 3600 + minutes * 60)

/-- The offset as it is written. -/
def text : Zone → List Char
  | universal letter => [letter]
  | ahead hours minutes => '+' :: padded 2 hours ++ ':' :: padded 2 minutes
  | behind hours minutes => '-' :: padded 2 hours ++ ':' :: padded 2 minutes

/-- Universal time has one of two letters, and other offsets are shorter than a day. -/
def Exists : Zone → Prop
  | universal letter => letter = 'Z' ∨ letter = 'z'
  | ahead hours minutes => hours ≤ 23 ∧ minutes ≤ 59
  | behind hours minutes => hours ≤ 23 ∧ minutes ≤ 59

end Zone

/-- An instant as it is written: a date and a time of day in a year of four digits, the character
between them, the digits of a fraction of a second, of which there may be none, and an offset. -/
structure Stamp where
  time : DateTime
  separator : Char := 'T'
  fraction : List Char := []
  zone : Zone := .universal 'Z'
  present : time.Exists
  ascii : separator.toNat < 128
  digits : ∀ c ∈ fraction, c.isDigit = true
  short : fraction.length ≤ 9
  within : zone.Exists

/-- A fraction of a second as it is written. -/
def fractionText : List Char → List Char
  | [] => []
  | ds => '.' :: ds

namespace Stamp

/-- The text of a stamp. -/
def text (s : Stamp) : String :=
  String.ofList <|
    padded 4 s.time.date.year.toNat ++ '-' :: padded 2 s.time.date.month ++
      '-' :: padded 2 s.time.date.day ++ s.separator :: padded 2 s.time.hour ++
      ':' :: padded 2 s.time.minute ++ ':' :: padded 2 s.time.second ++
      fractionText s.fraction ++ s.zone.text

/-- The instant of a stamp, in seconds from 1970-01-01. -/
def instant (s : Stamp) : ℚ :=
  (s.time.countedSeconds - s.zone.offset : ℤ) + ofDigits s.fraction / 10 ^ s.fraction.length

/-- The whole milliseconds from 1970-01-01 to the instant of a stamp, rounded down. -/
def millis (s : Stamp) : ℤ :=
  ⌊s.instant * 1000⌋

end Stamp

/-! ## Reading the parts -/

/-- Digits are read from the front of a text, whatever stands behind them. -/
theorem readDigits?_append {ds : List Char} (digits : ∀ c ∈ ds, c.isDigit = true)
    (rest : List Char) : readDigits? ds.length (ds ++ rest) = some (ds, rest) := by
  induction ds with
  | nil => rfl
  | cons c ds ih =>
    obtain ⟨digit, later⟩ := List.forall_mem_cons.1 digits
    rw [List.length_cons, List.cons_append, readDigits?, if_pos digit, ih later]
    rfl

/-- A numeral is read up to its width. -/
theorem readNumeral?_padded {width n : Nat} (positive : 0 < width) (fits : n < 10 ^ width)
    (rest : List Char) : readNumeral? width (padded width n ++ rest) = some (n, rest) := by
  have numeral := isNumeral_padded positive fits
  have read := readDigits?_append numeral.digits rest
  rw [numeral.length] at read
  rw [readNumeral?, read, Option.map_some, numeral.value]

/-- A character is read from the front of a text. -/
theorem afterChar?_cons (c : Char) (rest : List Char) : afterChar? c (c :: rest) = some rest :=
  if_pos rfl

/-- A date is read from its text, whatever stands behind it. -/
theorem readDate?_text {t : DateTime} (present : t.Exists) (rest : List Char) :
    readDate? (padded 4 t.date.year.toNat ++ '-' :: padded 2 t.date.month ++
      '-' :: padded 2 t.date.day ++ rest) = some (t.date, rest) := by
  obtain ⟨year, month, day, -, -, -⟩ := present.fits
  have natural : (t.date.year.toNat : Int) = t.date.year := Int.toNat_of_nonneg present.year.1
  have valid : Date.isValid ⟨t.date.year, t.date.month, t.date.day⟩ = true := present.isValid
  simp only [readDate?, List.append_assoc, List.cons_append, readNumeral?_padded (by decide) year,
    readNumeral?_padded (by decide) month, readNumeral?_padded (by decide) day, afterChar?_cons,
    bind, Option.bind, natural, guard, if_pos valid, pure]

/-- An offset with a sign is read from its hours and minutes. -/
theorem readOffset?_signed {sign : Char} (signed : sign = '+' ∨ sign = '-') {hours minutes : Nat}
    (h : hours ≤ 23) (m : minutes ≤ 59) :
    readOffset? (sign :: padded 2 hours ++ ':' :: padded 2 minutes) =
      some (if sign = '-' then -(hours * 3600 + minutes * 60 : Int) else hours * 3600 + minutes * 60,
        []) := by
  have noLetter : ¬(sign = 'Z' ∨ sign = 'z') := by rcases signed with rfl | rfl <;> decide
  have hoursFit : hours < 10 ^ 2 := by omega
  have minutesFit : minutes < 10 ^ 2 := by omega
  rw [← List.append_nil (padded 2 minutes), List.cons_append, readOffset?, if_neg noLetter,
    if_pos signed]
  simp only [readNumeral?_padded Nat.two_pos hoursFit, readNumeral?_padded Nat.two_pos minutesFit,
    afterChar?_cons, bind, Option.bind, guard, if_pos h, if_pos m, pure]

/-- The offset of a zone is read from its text. -/
theorem readOffset?_text {z : Zone} (within : z.Exists) :
    readOffset? z.text = some (z.offset, []) := by
  cases z with
  | universal letter => exact if_pos within
  | ahead hours minutes => exact readOffset?_signed (.inl rfl) within.1 within.2
  | behind hours minutes => exact readOffset?_signed (.inr rfl) within.1 within.2

/-- Up to nine digits of a fraction are read exactly. -/
theorem fractionNanos_eq {ds : List Char} (short : ds.length ≤ 9) :
    fractionNanos ds = ofDigits ds * 10 ^ (9 - ds.length) := by
  have filled : (ds ++ List.replicate (9 - ds.length) '0').length = 9 := by
    rw [List.length_append, List.length_replicate]
    omega
  rw [fractionNanos, List.take_of_length_le filled.le, ofDigits, Nat.ofDigitChars_append,
    Nat.ofDigitChars_replicate_zero, Nat.mul_comm]
  rfl

/-- Offsets are shorter than a day. -/
theorem Zone.natAbs_offset_lt {z : Zone} (within : z.Exists) : Int.natAbs z.offset < 86400 := by
  cases z with
  | universal letter =>
    show Int.natAbs 0 < 86400
    decide
  | ahead hours minutes =>
    obtain ⟨h, m⟩ := within
    show Int.natAbs (hours * 3600 + minutes * 60) < 86400
    omega
  | behind hours minutes =>
    obtain ⟨h, m⟩ := within
    show Int.natAbs (-(hours * 3600 + minutes * 60)) < 86400
    omega

/-- The first character of an offset belongs to no fraction. -/
theorem Zone.text_head {z : Zone} (within : z.Exists) :
    ∃ c rest, z.text = c :: rest ∧ c ≠ '.' ∧ c.isDigit = false := by
  cases z with
  | universal letter => rcases within with rfl | rfl <;> exact ⟨_, _, rfl, by decide, by decide⟩
  | ahead hours minutes => exact ⟨_, _, rfl, by decide, by decide⟩
  | behind hours minutes => exact ⟨_, _, rfl, by decide, by decide⟩

/-- A fraction is read up to the zone behind it. -/
theorem readFraction?_text {ds : List Char} (digits : ∀ c ∈ ds, c.isDigit = true)
    (short : ds.length ≤ 9) {z : Zone} (within : z.Exists) :
    readFraction? (fractionText ds ++ z.text) = some (ofDigits ds * 10 ^ (9 - ds.length), z.text) := by
  obtain ⟨c, rest, head, noDot, noDigit⟩ := Zone.text_head within
  cases ds with
  | nil =>
    rw [fractionText, List.nil_append, head, readFraction?]
    · rfl
    · rintro _ ⟨⟩
      exact noDot rfl
  | cons d ds =>
    have taken : ((d :: ds) ++ z.text).takeWhile Char.isDigit = d :: ds := by
      rw [List.takeWhile_append_of_pos digits, head, List.takeWhile_cons_of_neg (by simp [noDigit]),
        List.append_nil]
    have left : ((d :: ds) ++ z.text).dropWhile Char.isDigit = z.text := by
      rw [List.dropWhile_append_of_pos digits, head, List.dropWhile_cons_of_neg (by simp [noDigit])]
    simp only [fractionText, List.cons_append, readFraction?] at taken left ⊢
    rw [taken, left, fractionNanos_eq short]
    rfl

/-! ## Reading a stamp -/

/-- Counting days and seconds gives the second of a point in time that exists. -/
theorem DateTime.Exists.countedSeconds_eq {t : DateTime} (present : t.Exists) :
    t.countedSeconds = t.toSeconds := by
  rw [countedSeconds, Date.countedDays_eq present.isValid present.year.1]
  rfl

/-- The seconds up to a year of four digits are fewer than a million million. -/
theorem DateTime.Exists.toSeconds_bounds {t : DateTime} (present : t.Exists) :
    -10 ^ 12 < t.toSeconds ∧ t.toSeconds < 10 ^ 12 := by
  have next := Date.dayNumber_lt_nextYear present.isValid
  have own := Date.dayNumber_eq present.isValid
  obtain ⟨⟨low, high⟩, -, -, hour, minute, second⟩ := present
  have first := daysOfYears_mono (show -1 ≤ t.date.year - 1 by omega)
  have last := daysOfYears_mono (show t.date.year ≤ 9999 by omega)
  rw [show daysOfYears (-1) = -366 by decide] at first
  rw [show daysOfYears 9999 = 3652059 by decide] at last
  rw [toSeconds, secondsPerDay]
  omega

namespace Stamp

/-- The nanoseconds from 1970-01-01 to the instant of a stamp. -/
def nanos (s : Stamp) : Int :=
  (s.time.toSeconds - s.zone.offset) * nanosPerSecond +
    (ofDigits s.fraction * 10 ^ (9 - s.fraction.length) : Nat)

/-- A stamp is read as its nanosecond. -/
theorem readInstant?_text (s : Stamp) : readInstant? s.text.toList = some s.nanos := by
  obtain ⟨-, -, -, hour, minute, second⟩ := s.present.fits
  have times : s.time.hour ≤ 23 ∧ s.time.minute ≤ 59 ∧ s.time.second ≤ 60 :=
    ⟨Nat.le_of_lt_succ s.present.hour, Nat.le_of_lt_succ s.present.minute, s.present.second.le⟩
  -- The second exists, so it is not read as a leap second.
  have noLeap : s.time.second ≠ 60 := s.present.second.ne
  have same : min s.time.second 59 = s.time.second := min_eq_left (Nat.le_of_lt_succ s.present.second)
  have date := readDate?_text s.present (s.separator :: padded 2 s.time.hour ++
    ':' :: padded 2 s.time.minute ++ ':' :: padded 2 s.time.second ++ fractionText s.fraction ++
    s.zone.text)
  simp only [List.append_assoc, List.cons_append] at date
  simp only [text, String.toList_ofList, List.append_assoc, List.cons_append, readInstant?, date,
    afterSeparator?, if_pos s.ascii, readNumeral?_padded Nat.two_pos hour,
    readNumeral?_padded Nat.two_pos minute, readNumeral?_padded Nat.two_pos second, afterChar?_cons,
    readFraction?_text s.digits s.short s.within, readOffset?_text s.within, bind, Option.bind, guard,
    List.isEmpty_nil, if_pos times, noLeap, same, pure, nanos]
  simp

/-- The nanosecond of a stamp is its instant, up to the unit. -/
theorem nanos_eq (s : Stamp) : (s.nanos : ℚ) = s.instant * 10 ^ 9 := by
  have scale : (10 : ℚ) ^ (9 - s.fraction.length) = 10 ^ 9 / 10 ^ s.fraction.length :=
    pow_sub₀ _ (by norm_num) s.short
  rw [nanos, instant, s.present.countedSeconds_eq, nanosPerSecond]
  push_cast
  rw [scale]
  ring

/-- The second of a stamp is that of its nanosecond. -/
theorem floor_instant (s : Stamp) : ⌊s.instant⌋ = s.nanos / nanosPerSecond := by
  have ratio : s.instant = (s.nanos : ℚ) / (1000000000 : ℕ) := by
    rw [nanos_eq]
    push_cast
    ring
  rw [ratio, Rat.floor_intCast_div_natCast]
  rfl

/-- The millisecond of a stamp is that of its nanosecond. -/
theorem millis_eq (s : Stamp) : s.millis = s.nanos / nanosPerMilli := by
  have ratio : s.instant * 1000 = (s.nanos : ℚ) / (1000000 : ℕ) := by
    rw [nanos_eq]
    push_cast
    ring
  rw [millis, ratio, Rat.floor_intCast_div_natCast]
  rfl

/-- The fraction is less than a second. -/
theorem fraction_lt (s : Stamp) : ofDigits s.fraction * 10 ^ (9 - s.fraction.length) < 10 ^ 9 := by
  have places : s.fraction.length + (9 - s.fraction.length) = 9 := Nat.add_sub_cancel' s.short
  calc ofDigits s.fraction * 10 ^ (9 - s.fraction.length)
      < 10 ^ s.fraction.length * 10 ^ (9 - s.fraction.length) :=
        Nat.mul_lt_mul_of_pos_right (ofDigits_lt s.digits) (by positivity)
    _ = 10 ^ 9 := by rw [← Nat.pow_add, places]

/-- The milliseconds up to a stamp fit into 64 bits. -/
theorem exists_int64 (s : Stamp) : ∃ ms : Int64, ms.toInt = s.millis := by
  have seconds := s.present.toSeconds_bounds
  have offset := Zone.natAbs_offset_lt s.within
  have fraction := s.fraction_lt
  have bounds : -10 ^ 16 ≤ s.millis ∧ s.millis ≤ 10 ^ 16 := by
    rw [millis_eq, nanos, nanosPerSecond, nanosPerMilli]
    omega
  exact ⟨.ofInt s.millis, Int64.toInt_ofInt_of_le (by omega) (by omega)⟩

end Stamp

end IngestConsole.Calendar
