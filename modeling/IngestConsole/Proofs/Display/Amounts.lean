import IngestConsole.Display.Amount
import IngestConsole.Proofs.Numeral.Grouping
import Mathlib.Algebra.Order.Ring.Nat

/-!
# Numbers and uptimes

A number is shown in groups of three digits, and an uptime as a sum of days, hours, minutes and
seconds without the units that do not occur in it.  Both have one text only, and the text determines
them.
-/

set_option autoImplicit false

namespace IngestConsole.Display

open Numeral

/-! ## Numbers -/

/-- Different numbers have different texts. -/
theorem numberText_injective : Function.Injective numberText := by
  intro m n same
  have numerals : intText m.toInt = intText n.toInt := by
    rw [← withoutCommas_groupedText, ← withoutCommas_groupedText]
    exact congrArg withoutCommas same
  exact Int64.toInt_inj.1 (intText_injective numerals)

/-- A number of 64 bits is shown as the one text that has its digits in groups: a minus sign exactly
if it is negative, a first group of one to three digits without a zero in front, and then groups of
three digits with a comma before each.  Without the commas the text is read as the number.  So
different numbers are shown differently. -/
theorem numberText_grouped :
    (∀ (n : Int64) (s : String),
      numberText n = s ↔ ∃ first later, IsGrouped n.toInt s first later)
      ∧ Function.Injective numberText := by
  refine ⟨fun n s => ⟨?_, ?_⟩, numberText_injective⟩
  · rintro rfl
    obtain ⟨first, later, groups⟩ := exists_inGroups (digits_ne_nil n.toInt.natAbs)
    exact ⟨first, later, groups.isGrouped⟩
  · rintro ⟨first, later, grouped⟩
    exact grouped.eq_groupedText.symm

/-- The least number has a magnitude that is no number of 64 bits itself. -/
example : numberText (-9223372036854775808) = "-9,223,372,036,854,775,808" := by
  decide +kernel

/-! ## Units of time -/

/-- A unit of time. -/
inductive TimeUnit
  | day
  | hour
  | minute
  | second

namespace TimeUnit

/-- The units, the largest first. -/
def all : List TimeUnit :=
  [day, hour, minute, second]

/-- The seconds of a unit. -/
def seconds : TimeUnit → Nat
  | day => 86400
  | hour => 3600
  | minute => 60
  | second => 1

/-- The letter behind a count. -/
def letter : TimeUnit → Char
  | day => 'd'
  | hour => 'h'
  | minute => 'm'
  | second => 's'

/-- The count from which on there is a larger unit. -/
def limit? : TimeUnit → Option Nat
  | day => none
  | hour => some 24
  | minute => some 60
  | second => some 60

/-- Different units have different letters. -/
theorem letter_injective : Function.Injective letter := by
  intro u v same
  cases u <;> cases v <;> cases same <;> rfl

/-- Different units have different lengths. -/
theorem seconds_injective : Function.Injective seconds := by
  intro u v same
  cases u <;> cases v <;> cases same <;> rfl

/-- Every unit lasts. -/
theorem seconds_pos (u : TimeUnit) : 0 < u.seconds := by
  cases u <;> decide

/-- No unit is written as a blank. -/
theorem letter_ne_blank (u : TimeUnit) : u.letter ≠ ' ' := by
  cases u <;> decide

/-- The units are listed from the longest to the shortest. -/
theorem descending_all : all.Pairwise fun u v => v.seconds < u.seconds := by
  decide

/-- A unit that is not the largest has a limit, and reaches the larger ones only from there on. -/
theorem exists_limit {u v : TimeUnit} (smaller : u.seconds < v.seconds) :
    ∃ limit, u.limit? = some limit ∧ u.seconds * limit ≤ v.seconds := by
  cases u <;> cases v <;> simp_all [seconds, limit?]

end TimeUnit

/-! ## Terms -/

/-- A count as it is written, and its unit. -/
@[ext]
structure Term where
  digits : List Char
  unit : TimeUnit

namespace Term

/-- The count of a term. -/
def count (t : Term) : Nat :=
  ofDigits t.digits

/-- The seconds of a term. -/
def seconds (t : Term) : Nat :=
  t.count * t.unit.seconds

/-- The digits of the count, and the letter of the unit behind them. -/
def text (t : Term) : String :=
  String.ofList (t.digits ++ [t.unit.letter])

/-- A positive count below the limit of its unit, written without zeros in front. -/
structure IsCounted (t : Term) : Prop where
  digits : ∀ c ∈ t.digits, c.isDigit = true
  leading : t.digits.head? ≠ some '0'
  positive : 0 < t.count
  below : ∀ limit, t.unit.limit? = some limit → t.count < limit

/-- A term is determined by its text. -/
theorem text_injective : Function.Injective text := by
  rintro ⟨ds, u⟩ ⟨ds', u'⟩ same
  obtain ⟨front, last⟩ := List.append_inj' (String.ofList_injective same) rfl
  exact Term.ext front (TimeUnit.letter_injective (List.cons.inj last).1)

/-- The text of a term has no blank in it. -/
theorem blank_not_mem_text {t : Term} (digits : ∀ c ∈ t.digits, c.isDigit = true) :
    ' ' ∉ t.text.toList := by
  intro mem
  rw [text, String.toList_ofList] at mem
  rcases List.mem_append.1 mem with digit | letter
  · cases digits ' ' digit
  · exact t.unit.letter_ne_blank (List.mem_singleton.1 letter).symm

/-- A count determines its digits. -/
theorem IsCounted.digits_count {t : Term} (counted : t.IsCounted) :
    Numeral.digits t.count = t.digits := by
  refine digits_ofDigits ?_ counted.digits counted.leading
  intro none
  have positive := counted.positive
  rw [count, none] at positive
  exact absurd positive (Nat.lt_irrefl 0)

end Term

/-! ## Sums of units -/

/-- The seconds of a sum. -/
def sumSeconds (terms : List Term) : Nat :=
  (terms.map Term.seconds).sum

/-- The terms of a sum: larger units come first, and none comes twice. -/
structure IsSum (terms : List Term) : Prop where
  counted : ∀ t ∈ terms, t.IsCounted
  units : (terms.map Term.unit).Sublist TimeUnit.all

section

variable {t t' : Term} {terms terms' : List Term}

/-- A first term adds its seconds to those of the others. -/
theorem sumSeconds_cons :
    sumSeconds (t :: terms) = sumSeconds terms + t.unit.seconds * t.count := by
  rw [sumSeconds, List.map_cons, List.sum_cons, Term.seconds, Nat.add_comm, Nat.mul_comm]
  rfl

/-- The first term of a sum is counted. -/
theorem IsSum.head (sum : IsSum (t :: terms)) : t.IsCounted :=
  sum.counted t List.mem_cons_self

/-- A sum without its first term is a sum. -/
theorem IsSum.tail (sum : IsSum (t :: terms)) : IsSum terms where
  counted := (List.forall_mem_cons.1 sum.counted).2
  units := (List.sublist_cons_self _ _).trans sum.units

/-- All units after the first are smaller than it. -/
theorem IsSum.smaller (sum : IsSum (t :: terms)) :
    ∀ s ∈ terms, s.unit.seconds < t.unit.seconds := by
  have descending := TimeUnit.descending_all.sublist sum.units
  rw [List.map_cons, List.pairwise_cons] at descending
  exact fun s mem => descending.1 s.unit (List.mem_map_of_mem mem)

/-- The counts of a sum are written in digits. -/
theorem IsSum.digits (sum : IsSum terms) : ∀ t ∈ terms, ∀ c ∈ t.digits, c.isDigit = true :=
  fun t mem => (sum.counted t mem).digits

/-- A sum of units that are all smaller than another does not reach that one. -/
theorem IsSum.sumSeconds_lt (sum : IsSum terms) {u : TimeUnit}
    (smaller : ∀ t ∈ terms, t.unit.seconds < u.seconds) : sumSeconds terms < u.seconds := by
  induction terms generalizing u with
  | nil => exact u.seconds_pos
  | cons t terms ih =>
    obtain ⟨limit, limited, reaches⟩ := TimeUnit.exists_limit (smaller t List.mem_cons_self)
    have below : t.count < limit := sum.head.below limit limited
    have rest : sumSeconds terms < t.unit.seconds := ih sum.tail sum.smaller
    calc sumSeconds (t :: terms)
        = sumSeconds terms + t.unit.seconds * t.count := sumSeconds_cons
      _ < t.unit.seconds + t.unit.seconds * t.count := Nat.add_lt_add_right rest _
      _ = t.unit.seconds * (t.count + 1) := by rw [Nat.mul_succ, Nat.add_comm]
      _ ≤ t.unit.seconds * limit := Nat.mul_le_mul_left _ below
      _ ≤ u.seconds := reaches

/-- A sum amounts to at least its first unit. -/
theorem IsSum.le_sumSeconds (sum : IsSum (t :: terms)) :
    t.unit.seconds ≤ sumSeconds (t :: terms) := by
  rw [sumSeconds_cons]
  exact (Nat.le_mul_of_pos_right _ sum.head.positive).trans (Nat.le_add_left _ _)

/-- A sum amounts to something exactly when it has terms. -/
theorem IsSum.sumSeconds_pos_iff (sum : IsSum terms) : 0 < sumSeconds terms ↔ terms ≠ [] := by
  cases terms with
  | nil => exact iff_of_false (Nat.lt_irrefl 0) fun some_term => some_term rfl
  | cons t terms =>
    exact iff_of_true (t.unit.seconds_pos.trans_le sum.le_sumSeconds) (List.cons_ne_nil _ _)

/-- Of two sums of the same seconds neither begins with a larger unit: the other would not reach
it. -/
theorem IsSum.unit_le (sum : IsSum (t :: terms)) (sum' : IsSum (t' :: terms'))
    (same : sumSeconds (t :: terms) = sumSeconds (t' :: terms')) :
    t'.unit.seconds ≤ t.unit.seconds := by
  refine Nat.le_of_not_lt fun first => ?_
  have smaller : ∀ s ∈ t :: terms, s.unit.seconds < t'.unit.seconds :=
    List.forall_mem_cons.2 ⟨first, fun s mem => (sum.smaller s mem).trans first⟩
  have missed := sum.sumSeconds_lt smaller
  have reached := sum'.le_sumSeconds
  omega

/-- A span is a sum of units in one way only. -/
theorem IsSum.unique (sum : IsSum terms) (sum' : IsSum terms')
    (same : sumSeconds terms = sumSeconds terms') : terms = terms' := by
  induction terms generalizing terms' with
  | nil =>
    cases terms' with
    | nil => rfl
    | cons t' terms' => exact absurd same (sum'.sumSeconds_pos_iff.2 (List.cons_ne_nil _ _)).ne
  | cons t terms ih =>
    cases terms' with
    | nil => exact absurd same (sum.sumSeconds_pos_iff.2 (List.cons_ne_nil _ _)).ne'
    | cons t' terms' =>
      have le := sum'.unit_le sum same.symm
      have ge := sum.unit_le sum' same
      have unit : t.unit = t'.unit := TimeUnit.seconds_injective (le_antisymm le ge)
      have later : sumSeconds terms < t.unit.seconds := sum.tail.sumSeconds_lt sum.smaller
      have later' : sumSeconds terms' < t.unit.seconds := by
        rw [unit]
        exact sum'.tail.sumSeconds_lt sum'.smaller
      -- the first counts are the quotients, and the later terms make up the remainders
      rw [sumSeconds_cons, sumSeconds_cons, ← unit] at same
      obtain ⟨count, rest⟩ := (Nat.div_mod_unique t.unit.seconds_pos).2 ⟨same, later⟩
      obtain ⟨count', rest'⟩ := (Nat.div_mod_unique t.unit.seconds_pos).2 ⟨rfl, later'⟩
      have first : t = t' := by
        refine Term.ext ?_ unit
        rw [← sum.head.digits_count, ← sum'.head.digits_count, ← count, count']
      rw [first, ih sum.tail sum'.tail (rest.symm.trans rest')]

end

/-! ## Texts of sums -/

/-- Cut at its blanks, the text of a sum is the texts of its terms. -/
theorem splitOn_text {terms : List Term} (some_term : terms ≠ [])
    (digits : ∀ t ∈ terms, ∀ c ∈ t.digits, c.isDigit = true) :
    (" ".intercalate (terms.map Term.text)).toList.splitOn ' ' =
      terms.map fun t => t.text.toList := by
  have blank : " ".toList = [' '] := rfl
  rw [String.toList_intercalate, blank, List.splitOn_intercalate, List.map_map]
  · rfl
  · intro s mem
    obtain ⟨t, term, rfl⟩ := List.mem_map.1 (List.map_map ▸ mem)
    exact Term.blank_not_mem_text (digits t term)
  · simpa using some_term

/-- The terms are what stands between the blanks of a text. -/
theorem terms_unique {terms terms' : List Term} (some_term : terms ≠ []) (some_term' : terms' ≠ [])
    (digits : ∀ t ∈ terms, ∀ c ∈ t.digits, c.isDigit = true)
    (digits' : ∀ t ∈ terms', ∀ c ∈ t.digits, c.isDigit = true)
    (same : " ".intercalate (terms.map Term.text) = " ".intercalate (terms'.map Term.text)) :
    terms = terms' := by
  have texts : terms.map (fun t => t.text.toList) = terms'.map fun t => t.text.toList := by
    rw [← splitOn_text some_term digits, same, splitOn_text some_term' digits']
  have injective : Function.Injective fun t : Term => t.text.toList :=
    fun t t' alike => Term.text_injective (String.toList_inj.1 alike)
  exact List.map_injective_iff.2 injective texts

/-- No term of a sum is written with a zero in front. -/
theorem IsSum.text_ne_zero {terms : List Term} (sum : IsSum terms) (some_term : terms ≠ []) :
    " ".intercalate (terms.map Term.text) ≠ "0s" := by
  intro same
  have zero : "0s" = " ".intercalate ([⟨['0'], .second⟩].map Term.text) := by
    decide +kernel
  have only : terms = [⟨['0'], .second⟩] :=
    terms_unique some_term (by simp) sum.digits (by simp) (same.trans zero)
  have counted := sum.counted ⟨['0'], .second⟩ (only ▸ List.mem_cons_self)
  exact counted.leading rfl

/-- The text shows a span of `n` seconds: `0s` for none, and else the terms of a sum with blanks
between them. -/
inductive IsUptime (n : Nat) (s : String) : Prop
  | zero (no_second : n = 0) (text : s = "0s")
  | sum (some_second : 0 < n) (terms : List Term) (sum : IsSum terms)
    (total : sumSeconds terms = n) (text : s = " ".intercalate (terms.map Term.text))

section

variable {n n' : Nat} {s s' : String}

/-- A span has one text. -/
theorem IsUptime.text_unique (h : IsUptime n s) (h' : IsUptime n s') : s = s' := by
  cases h with
  | zero no_second text =>
    cases h' with
    | zero _ text' => rw [text, text']
    | sum some_second => omega
  | sum some_second terms sum total text =>
    cases h' with
    | zero no_second => omega
    | sum _ terms' sum' total' text' =>
      rw [text, text', sum.unique sum' (total.trans total'.symm)]

/-- A text belongs to one span. -/
theorem IsUptime.span_unique (h : IsUptime n s) (h' : IsUptime n' s) : n = n' := by
  cases h with
  | zero no_second text =>
    cases h' with
    | zero no_second' => rw [no_second, no_second']
    | sum some_second terms sum total text' =>
      have some_term : terms ≠ [] := sum.sumSeconds_pos_iff.1 (total ▸ some_second)
      exact absurd (text'.symm.trans text) (sum.text_ne_zero some_term)
  | sum some_second terms sum total text =>
    have some_term : terms ≠ [] := sum.sumSeconds_pos_iff.1 (total ▸ some_second)
    cases h' with
    | zero _ text' => exact absurd (text.symm.trans text') (sum.text_ne_zero some_term)
    | sum some_second' terms' sum' total' text' =>
      have some_term' : terms' ≠ [] := sum'.sumSeconds_pos_iff.1 (total' ▸ some_second')
      have same : terms = terms' :=
        terms_unique some_term some_term' sum.digits sum'.digits (text.symm.trans text')
      rw [← total, ← total', same]

end

/-! ## Uptimes -/

/-- How often each unit occurs in a span. -/
def unitCounts (n : Nat) : List (Nat × TimeUnit) :=
  [(n / 86400, .day), (n % 86400 / 3600, .hour), (n % 3600 / 60, .minute), (n % 60, .second)]

/-- The term of a count. -/
def Term.ofCount (p : Nat × TimeUnit) : Term where
  digits := Numeral.digits p.1
  unit := p.2

/-- The terms of the units that occur in a span. -/
def shownTerms (n : Nat) : List Term :=
  ((unitCounts n).filter (·.1 > 0)).map .ofCount

/-- A term made of a count has that count. -/
theorem Term.count_ofCount (p : Nat × TimeUnit) : (Term.ofCount p).count = p.1 :=
  ofDigits_digits p.1

/-- The count of a unit stays below its limit. -/
theorem unitCounts_below {n : Nat} {p : Nat × TimeUnit} (mem : p ∈ unitCounts n) {limit : Nat}
    (limited : p.2.limit? = some limit) : p.1 < limit := by
  simp only [unitCounts, List.mem_cons, List.not_mem_nil, or_false] at mem
  rcases mem with rfl | rfl | rfl | rfl
  all_goals cases limited
  all_goals omega

/-- The terms that are shown are a sum. -/
theorem isSum_shownTerms (n : Nat) : IsSum (shownTerms n) where
  counted t mem := by
    obtain ⟨p, shown, rfl⟩ := List.mem_map.1 mem
    obtain ⟨counted, positive⟩ := List.mem_filter.1 shown
    rw [decide_eq_true_iff] at positive
    refine ⟨all_isDigit_digits p.1, ?_, ?_, ?_⟩
    · exact fun zero => positive.ne' (eq_zero_of_head?_digits zero)
    · rwa [Term.count_ofCount]
    · intro limit limited
      rw [Term.count_ofCount]
      exact unitCounts_below counted limited
  units := by
    have units : (shownTerms n).map Term.unit =
        ((unitCounts n).filter (·.1 > 0)).map Prod.snd := by
      rw [shownTerms, List.map_map]
      rfl
    rw [units]
    exact List.filter_sublist.map Prod.snd

/-- Units that do not occur add nothing to a span. -/
theorem sumSeconds_filter (counts : List (Nat × TimeUnit)) :
    sumSeconds ((counts.filter (·.1 > 0)).map .ofCount) = sumSeconds (counts.map .ofCount) := by
  induction counts with
  | nil => rfl
  | cons p counts ih =>
    by_cases occurs : p.1 > 0
    · rw [List.filter_cons_of_pos (by simpa using occurs), List.map_cons, List.map_cons,
        sumSeconds_cons, sumSeconds_cons, ih]
    · have none : p.1 = 0 := Nat.eq_zero_of_not_pos occurs
      rw [List.filter_cons_of_neg (by simpa using occurs), List.map_cons, sumSeconds_cons, ih,
        Term.count_ofCount, none, Nat.mul_zero, Nat.add_zero]

/-- The terms that are shown amount to the number they were made from. -/
theorem sumSeconds_shownTerms (n : Nat) : sumSeconds (shownTerms n) = n := by
  rw [shownTerms, sumSeconds_filter]
  simp only [unitCounts, List.map_cons, List.map_nil, sumSeconds_cons, Term.count_ofCount]
  simp only [Term.ofCount, TimeUnit.seconds, sumSeconds, List.map_nil, List.sum_nil]
  omega

/-- An uptime is shown as its terms with blanks between them, or as no seconds if there are none. -/
theorem uptimeText_eq (seconds : UInt64) :
    uptimeText seconds =
      if shownTerms seconds.toNat = [] then "0s"
      else " ".intercalate ((shownTerms seconds.toNat).map Term.text) := by
  have parts : [(seconds.toNat / 86400, "d"), (seconds.toNat % 86400 / 3600, "h"),
      (seconds.toNat % 3600 / 60, "m"), (seconds.toNat % 60, "s")] =
      (unitCounts seconds.toNat).map fun p => (p.1, String.ofList [p.2.letter]) := rfl
  have written (p : Nat × TimeUnit) :
      natText p.1 ++ String.ofList [p.2.letter] = (Term.ofCount p).text := String.ofList_append.symm
  unfold uptimeText shownTerms
  simp only [parts, List.filter_map, Function.comp_def]
  cases (unitCounts seconds.toNat).filter (·.1 > 0) with
  | nil => rfl
  | cons p counts =>
    rw [if_neg (by simp), List.map_map]
    simp only [List.map_cons, written, Function.comp_def, List.map_map]

/-- What is shown of an uptime is a canonical sum of it. -/
theorem isUptime_uptimeText (seconds : UInt64) : IsUptime seconds.toNat (uptimeText seconds) := by
  have total := sumSeconds_shownTerms seconds.toNat
  have sum := isSum_shownTerms seconds.toNat
  rw [uptimeText_eq]
  split
  · next none =>
    refine .zero ?_ rfl
    rw [← total, none]
    rfl
  · next some_term =>
    have some_second : 0 < seconds.toNat := total ▸ sum.sumSeconds_pos_iff.2 some_term
    exact .sum some_second _ sum total rfl

/-- Every span of seconds is shown as its one text: `0s` if it is empty, and else as the sum of
days, hours, minutes and seconds that makes it up, with the larger units first and none of them
twice, with positive counts without zeros in front, below 24 hours, 60 minutes and 60 seconds.  No
other span is shown like it. -/
theorem uptimeText_canonical :
    (∀ (seconds : UInt64) (s : String), uptimeText seconds = s ↔ IsUptime seconds.toNat s)
      ∧ Function.Injective uptimeText := by
  refine ⟨fun seconds s => ⟨?_, ?_⟩, fun seconds seconds' same => ?_⟩
  · rintro rfl
    exact isUptime_uptimeText seconds
  · exact fun shown => (isUptime_uptimeText seconds).text_unique shown
  · have shown := isUptime_uptimeText seconds
    rw [same] at shown
    exact UInt64.toNat_inj.1 (shown.span_unique (isUptime_uptimeText seconds'))

end IngestConsole.Display
