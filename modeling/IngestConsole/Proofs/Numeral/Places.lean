import IngestConsole.Numeral.Fixed
import IngestConsole.Proofs.Numeral.Grouping
import IngestConsole.Proofs.Numeral.IntegerRounding
import IngestConsole.Proofs.Numeral.Padding

/-!
# Decimals without zeros at their end

A quotient is written with a fixed number of places, and the zeros at the end of the places are
dropped.  What remains is a decimal of the same value, the quotient rounded to the places.
-/

set_option autoImplicit false

namespace IngestConsole.Numeral

/-! ## Decimals -/

/-- A whole number with digits behind a point. -/
structure Decimal where
  whole : Nat
  places : List Char

namespace Decimal

/-- The number that a decimal stands for. -/
def value (d : Decimal) : ℚ :=
  d.whole + ofDigits d.places / 10 ^ d.places.length

/-- The text of a decimal, without a point if there is nothing behind it. -/
def text (d : Decimal) : List Char :=
  digits d.whole ++ if d.places = [] then [] else '.' :: d.places

/-- A decimal with at most `n` places, the last of which is not zero. -/
structure IsTrimmed (n : Nat) (d : Decimal) : Prop where
  digits : ∀ c ∈ d.places, c.isDigit = true
  short : d.places.length ≤ n
  trimmed : d.places.getLast? ≠ some '0'

/-- The digits in front end where the first character that is no digit stands. -/
theorem takeWhile_text (d : Decimal) : d.text.takeWhile Char.isDigit = Numeral.digits d.whole := by
  rw [text, List.takeWhile_append_of_pos (all_isDigit_digits d.whole)]
  split
  · rw [List.takeWhile_nil, List.append_nil]
  · rw [List.takeWhile_cons_of_neg (by decide), List.append_nil]

/-- A decimal is determined by its text. -/
theorem text_injective : Function.Injective text := by
  intro d d' same
  have whole : d.whole = d'.whole := by
    apply digits_injective
    rw [← takeWhile_text, ← takeWhile_text, same]
  have behind : (if d.places = [] then [] else '.' :: d.places) =
      if d'.places = [] then [] else '.' :: d'.places := by
    unfold text at same
    rw [whole] at same
    exact List.append_cancel_left same
  have places : d.places = d'.places := by
    by_cases none : d.places = [] <;> by_cases none' : d'.places = []
    · rw [none, none']
    · rw [if_pos none, if_neg none'] at behind
      cases behind
    · rw [if_neg none, if_pos none'] at behind
      cases behind
    · rw [if_neg none, if_neg none'] at behind
      exact (List.cons.inj behind).2
  rcases d with ⟨m, ds⟩
  rcases d' with ⟨n, es⟩
  exact congrArg₂ mk whole places

end Decimal

/-! ## Zeros at the end -/

/-- Places without the zeros at their end. -/
def withoutZeros (places : List Char) : List Char :=
  places.rdropWhile (· == '0')

/-- After trimming the last place is not a zero. -/
theorem getLast?_withoutZeros (places : List Char) :
    (withoutZeros places).getLast? ≠ some '0' := by
  intro last
  have some_digit : withoutZeros places ≠ [] := by
    intro none
    rw [none] at last
    cases last
  refine List.rdropWhile_last_not (· == '0') places some_digit ?_
  rw [List.getLast?_eq_some_getLast some_digit] at last
  exact beq_iff_eq.2 (Option.some.inj last)

/-- Trimming keeps the value of the places. -/
theorem ofDigits_withoutZeros (places : List Char) :
    (ofDigits (withoutZeros places) / 10 ^ (withoutZeros places).length : ℚ) =
      ofDigits places / 10 ^ places.length := by
  -- from the last place on: a zero there is dropped, any other digit ends the dropping
  induction places using List.reverseRecOn with
  | nil => rfl
  | append_singleton places c ih =>
    by_cases zero : c = '0'
    · subst zero
      have dropped : withoutZeros (places ++ ['0']) = withoutZeros places :=
        List.rdropWhile_concat_pos _ _ _ rfl
      have shifted : ofDigits (places ++ ['0']) = 10 * ofDigits places := ofDigits_concat places '0'
      rw [dropped, ih, shifted, List.length_append, List.length_singleton, pow_succ]
      push_cast
      rw [mul_comm, mul_div_mul_right _ _ (by norm_num)]
    · have kept : withoutZeros (places ++ [c]) = places ++ [c] :=
        List.rdropWhile_concat_neg _ _ _ (by simpa using zero)
      rw [kept]

/-- Of a decimal only the zeros at the end of its places are dropped, and with the last of the
places the point. -/
theorem trimPlaces_append {whole places : List Char} (point : '.' ∉ places) :
    trimPlaces (whole ++ '.' :: places) =
      whole ++ if withoutZeros places = [] then [] else '.' :: withoutZeros places := by
  have pointed : (whole ++ '.' :: places).contains '.' = true := by simp
  have back : (whole ++ '.' :: places).reverse.dropWhile (· == '0') =
      (withoutZeros places).reverse ++ '.' :: whole.reverse := by
    have turned : (whole ++ '.' :: places).reverse = places.reverse ++ '.' :: whole.reverse := by
      simp
    have kept : (withoutZeros places).reverse = places.reverse.dropWhile (· == '0') :=
      List.reverse_reverse _
    rw [turned, kept, List.dropWhile_append]
    split
    · next none =>
      rw [List.isEmpty_iff.1 none, List.dropWhile_cons_of_neg (by decide), List.nil_append]
    · rfl
  have digits : '.' ∉ withoutZeros places :=
    fun mem => point ((List.rdropWhile_prefix _ _).subset mem)
  rw [trimPlaces, if_pos pointed, back]
  rcases List.eq_nil_or_concat (withoutZeros places) with none | ⟨front, last, split⟩
  · rw [none]
    simp
  · have head : last ≠ '.' := by
      rintro rfl
      exact digits (by rw [split]; simp)
    rw [split]
    simp [head]

/-- A number of units of the last of `n` places, written without the zeros at its end. -/
theorem exists_trimmed_withPoint {n : Nat} (some_place : 0 < n) (q : Nat) :
    ∃ d : Decimal, trimPlaces (withPoint n q) = d.text ∧ d.IsTrimmed n ∧ d.value = q / 10 ^ n := by
  have numeral : IsNumeral n (padded n (q % 10 ^ n)) (q % 10 ^ n) :=
    isNumeral_padded some_place (Nat.mod_lt _ (by positivity))
  have point : '.' ∉ padded n (q % 10 ^ n) := by
    intro mem
    cases numeral.digits '.' mem
  have front : withoutZeros (padded n (q % 10 ^ n)) <+: padded n (q % 10 ^ n) :=
    List.rdropWhile_prefix _ _
  refine ⟨⟨q / 10 ^ n, withoutZeros (padded n (q % 10 ^ n))⟩, ?_, ⟨?_, ?_, ?_⟩, ?_⟩
  · rw [withPoint, if_neg some_place.ne']
    exact trimPlaces_append point
  · exact fun c mem => numeral.digits c (front.subset mem)
  · exact front.length_le.trans numeral.length.le
  · exact getLast?_withoutZeros _
  · have split : (q : ℚ) = 10 ^ n * (q / 10 ^ n : ℕ) + (q % 10 ^ n : ℕ) := by
      exact_mod_cast (Nat.div_add_mod q (10 ^ n)).symm
    simp only [Decimal.value, ofDigits_withoutZeros, numeral.value, numeral.length]
    rw [eq_div_iff (by positivity), add_mul, div_mul_cancel₀ _ (by positivity)]
    linarith

/-! ## Rounded quotients -/

/-- A lower bound that is a whole number survives rounding. -/
theorem le_roundDiv {num den k : Nat} (pos : 0 < den) (bound : k * den ≤ num) :
    k ≤ roundDiv num den := by
  obtain ⟨q, r, split, small, rounded⟩ := roundDiv_cases num pos
  have above : k * den < (q + 1) * den := by
    rw [Nat.succ_mul]
    omega
  have whole : k ≤ q := Nat.le_of_lt_succ (Nat.lt_of_mul_lt_mul_right above)
  rcases rounded with ⟨same, -⟩ | ⟨up, -⟩
  · exact whole.trans_eq same.symm
  · rw [up]
    exact whole.trans (Nat.le_succ q)

/-- A quotient that is rounded to a fraction of one is off by at most half of that fraction. -/
theorem abs_roundDiv_div_sub_le (num : Nat) {den scale : Nat} (pos : 0 < den)
    (some_part : 0 < scale) :
    |(roundDiv (num * scale) den : ℚ) / scale - num / den| ≤ 1 / (2 * scale) := by
  have close : 2 * |(roundDiv (num * scale) den * den : ℚ) - num * scale| ≤ den := by
    exact_mod_cast roundDiv_close (num * scale) pos
  have off : (roundDiv (num * scale) den : ℚ) / scale - num / den =
      (roundDiv (num * scale) den * den - num * scale) / (scale * den) := by
    rw [div_sub_div _ _ (by positivity) (by positivity)]
    ring
  rw [off, abs_div, abs_of_pos (by positivity : (0 : ℚ) < scale * den),
    div_le_div_iff₀ (by positivity) (by positivity)]
  calc |(roundDiv (num * scale) den * den : ℚ) - num * scale| * (2 * scale)
      = 2 * |(roundDiv (num * scale) den * den : ℚ) - num * scale| * scale := by ring
    _ ≤ den * scale := mul_le_mul_of_nonneg_right close (by positivity)
    _ = 1 * (scale * den) := by ring

/-- A quotient is rounded to an even number, and not below it, from half a unit before it on. -/
theorem roundDiv_lt_iff {num den m : Nat} (pos : 0 < den) (even : m % 2 = 0) :
    roundDiv num den < m ↔ 2 * num + den < 2 * (den * m) := by
  have split := Nat.div_add_mod num den
  have small := Nat.mod_lt num pos
  have multiples {a b : Nat} (le : a ≤ b) : den * a ≤ den * b := Nat.mul_le_mul_left den le
  simp only [roundDiv]
  generalize num / den = q at split ⊢
  generalize num % den = r at split small ⊢
  -- where the rounded quotient is below `m`, there are two halves left to `m`
  rcases Nat.lt_or_ge q m with below | above
  · have first := multiples (Nat.succ_le_of_lt below)
    rw [Nat.mul_succ] at first
    by_cases second : q + 2 ≤ m
    · have next := multiples second
      rw [Nat.mul_add] at next
      refine iff_of_true ?_ (by omega)
      split_ifs <;> omega
    · obtain rfl : m = q + 1 := by omega
      rw [Nat.mul_succ]
      split_ifs <;> omega
  · have past := multiples above
    refine iff_of_false ?_ (by omega)
    split_ifs <;> omega

end IngestConsole.Numeral
