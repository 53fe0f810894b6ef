import IngestConsole.Numeral.Binary64
import Mathlib

/-!
# Integers as floating-point numbers

Every integer of 64 bits has a nearest floating-point number.  It differs from the integer by at most
half a unit of its last place, and not at all up to `2 ^ 53`.
-/

set_option autoImplicit false

namespace IngestConsole.Numeral

/-! ## Rounded quotients -/

/-- A quotient is rounded down where the remainder is at most a half, and up where it is at least
a half. -/
theorem roundDiv_cases (num : Nat) {den : Nat} (pos : 0 < den) :
    ∃ q r, num = q * den + r ∧ r < den ∧
      ((roundDiv num den = q ∧ 2 * r ≤ den) ∨ (roundDiv num den = q + 1 ∧ den ≤ 2 * r)) := by
  refine ⟨num / den, num % den, (Nat.div_add_mod' num den).symm, Nat.mod_lt num pos, ?_⟩
  simp only [roundDiv]
  split
  · next less => exact .inl ⟨rfl, less.le⟩
  · split
    · next half =>
      rcases Nat.mod_two_eq_zero_or_one (num / den) with even | odd
      · exact .inl ⟨by rw [even, Nat.add_zero], half.le⟩
      · exact .inr ⟨by rw [odd], half.ge⟩
    · next more => exact .inr ⟨rfl, by omega⟩

/-- A rounded quotient is off by at most a half. -/
theorem roundDiv_close (num : Nat) {den : Nat} (pos : 0 < den) :
    2 * |(roundDiv num den * den : ℤ) - num| ≤ den := by
  obtain ⟨q, r, split, small, ⟨same, half⟩ | ⟨up, half⟩⟩ := roundDiv_cases num pos
  · have off : (roundDiv num den * den : ℤ) - num = -(r : ℤ) := by
      rw [same, split]
      push_cast
      ring
    rw [off, abs_neg, Nat.abs_cast]
    exact_mod_cast half
  · have off : (roundDiv num den * den : ℤ) - num = ((den - r : ℕ) : ℤ) := by
      rw [up, split, Nat.cast_sub small.le]
      push_cast
      ring
    rw [off, Nat.abs_cast]
    omega

/-- Division by one needs no rounding. -/
theorem roundDiv_one (num : Nat) : roundDiv num 1 = num := by
  simp [roundDiv, Nat.mod_one]

/-- A rounded quotient does not pass a whole bound. -/
theorem roundDiv_le {num den k : Nat} (pos : 0 < den) (bound : num ≤ k * den) :
    roundDiv num den ≤ k := by
  obtain ⟨q, r, split, small, ⟨same, half⟩ | ⟨up, half⟩⟩ := roundDiv_cases num pos
  · rw [same]
    exact Nat.le_of_mul_le_mul_right (by omega : q * den ≤ k * den) pos
  · rw [up]
    exact Nat.lt_of_mul_lt_mul_right (a := den) (by omega : q * den < k * den)

namespace Finite64

/-- A power of two with an exponent of at least zero multiplies the numerator. -/
theorem raise_natCast (k : Nat) : raise k = 2 ^ k := rfl

/-- A power of two with an exponent of at most zero multiplies no numerator. -/
theorem raise_neg_natCast (k : Nat) : raise (-k) = 1 := by
  have none : (-(k : Int)).toNat = 0 := by omega
  rw [raise, none]

/-- The binary order of a whole number is that of its highest bit. -/
theorem binaryOrder_one {n : Nat} (pos : n ≠ 0) : binaryOrder n 1 = n.log2 := by
  have first : 2 ^ n.log2 ≤ n := Nat.log2_self_le pos
  have start : ((n.log2 : Int) - (Nat.log2 1 : Nat)) = n.log2 := by
    rw [show Nat.log2 1 = 0 from rfl, Int.natCast_zero, Int.sub_zero]
  simp only [binaryOrder, start]
  rw [if_pos]
  rwa [raise_natCast, raise_neg_natCast, Nat.one_mul, Nat.mul_one]

/-- The number has the magnitude `n`, rounded to 53 bits. -/
structure Rounds (x : Finite64) (n : Nat) : Prop where
  fits : x.significand < 2 ^ 53
  /-- The number is off by at most half a unit of its last place. -/
  close : 2 * |(x.num : ℤ) - n * x.den| ≤ raise x.exponent
  /-- Small integers are exact. -/
  exact : n ≤ 2 ^ 53 → x.num = n * x.den

/-- Zero rounds to zero, whatever its sign. -/
theorem rounds_zero (negative : Bool) : Rounds (.zero negative) 0 := by
  have none : (zero negative).num = 0 := Nat.zero_mul _
  refine ⟨Nat.two_pow_pos 53, ?_, fun _ => ?_⟩
  · rw [none, Nat.cast_zero, zero_mul, sub_zero, abs_zero, mul_zero]
    exact Int.natCast_nonneg _
  · rw [none, Nat.zero_mul]

/-- An integer of up to 53 bits is a number as it stands. -/
theorem rounds_shifted (negative : Bool) {n k : Nat} (fits : n * 2 ^ k < 2 ^ 53) :
    Rounds ⟨negative, n * 2 ^ k, -k⟩ n := by
  have exact : (Finite64.mk negative (n * 2 ^ k) (-k)).num =
      n * (Finite64.mk negative (n * 2 ^ k) (-k)).den := by
    rw [num, den, raise_neg_natCast, neg_neg, raise_natCast, Nat.mul_one]
  refine ⟨fits, ?_, fun _ => exact⟩
  rw [exact]
  simp

/-- A longer integer is cut to 53 bits. -/
theorem rounds_cut (negative : Bool) {n m k : Nat} (fits : m < 2 ^ 53)
    (close : 2 * |(m * 2 ^ k : ℤ) - n| ≤ 2 ^ k) (long : 2 ^ 53 < n) : Rounds ⟨negative, m, k⟩ n := by
  have num : (Finite64.mk negative m k).num = m * 2 ^ k := by rw [num, raise_natCast]
  have den : (Finite64.mk negative m k).den = 1 := raise_neg_natCast k
  refine ⟨fits, ?_, fun short => absurd short (by omega)⟩
  rw [num, den, raise_natCast]
  push_cast
  simpa using close

/-- A whole number of 64 bits has a nearest floating-point number. -/
theorem exists_ofRatio? (negative : Bool) {n : Nat} (small : n < 2 ^ 64) :
    ∃ x, ofRatio? negative n 1 = some x ∧ x.negative = negative ∧ x.Rounds n := by
  by_cases zero : n = 0
  · subst zero
    exact ⟨.zero negative, rfl, rfl, rounds_zero negative⟩
  by_cases edge : n = 2 ^ 53
  · subst edge
    have cut : ofRatio? negative (2 ^ 53) 1 = some ⟨negative, 2 ^ 52, 1⟩ := by
      cases negative <;> decide +kernel
    exact ⟨_, cut, rfl, by constructor <;> simp [num, den, raise]⟩
  have below : n < 2 ^ (n.log2 + 1) := Nat.lt_log2_self
  have order : n.log2 < 64 := (Nat.log2_lt zero).2 small
  have exponent : max ((n.log2 : Int) - 52) minExponent = n.log2 - 52 := by
    rw [minExponent]
    omega
  simp only [ofRatio?, if_neg zero, binaryOrder_one zero, exponent, Nat.one_mul]
  rcases le_or_gt n.log2 52 with short | long
  · -- all bits fit, and the significand is filled up with zeros
    obtain ⟨k, shift⟩ := Nat.exists_eq_add_of_le short
    have e : (n.log2 : Int) - 52 = -k := by omega
    have fits : n * 2 ^ k < 0x20000000000000 := by
      calc n * 2 ^ k < 2 ^ (n.log2 + 1) * 2 ^ k :=
            Nat.mul_lt_mul_of_pos_right below (Nat.two_pow_pos k)
        _ = 2 ^ 53 := by rw [← Nat.pow_add]; congr 1; omega
    have low : -(k : Int) ≤ maxExponent := by
      rw [maxExponent]
      omega
    simp only [e, neg_neg, raise_neg_natCast, raise_natCast, roundDiv_one, if_pos fits, if_pos low]
    exact ⟨_, rfl, rfl, rounds_shifted negative fits⟩
  · obtain ⟨k, shift⟩ := Nat.exists_eq_add_of_lt long
    have e : (n.log2 : Int) - 52 = (k + 1 : ℕ) := by omega
    have past : 2 ^ 53 < n := by
      have first : 2 ^ n.log2 ≤ n := Nat.log2_self_le zero
      have least : 2 ^ 53 ≤ 2 ^ n.log2 := Nat.pow_le_pow_right (by decide) long
      omega
    have bound : n ≤ 2 ^ 53 * 2 ^ (k + 1) := by
      rw [← Nat.pow_add]
      exact below.le.trans (Nat.pow_le_pow_right (by decide) (by omega))
    have close := roundDiv_close n (Nat.two_pow_pos (k + 1))
    have top := roundDiv_le (Nat.two_pow_pos (k + 1)) bound
    simp only [e, raise_neg_natCast, raise_natCast, Nat.mul_one]
    generalize roundDiv n (2 ^ (k + 1)) = m at close top
    push_cast at close
    by_cases fits : m < 0x20000000000000
    · have low : ((k + 1 : ℕ) : Int) ≤ maxExponent := by
        rw [maxExponent]
        omega
      simp only [if_pos fits, if_pos low]
      exact ⟨_, rfl, rfl, rounds_cut negative fits close past⟩
    · -- rounding up carried into a bit more
      have carried : m = 2 ^ 53 := by omega
      have low : ((k + 1 : ℕ) : Int) + 1 ≤ maxExponent := by
        rw [maxExponent]
        omega
      simp only [if_neg fits, if_pos low]
      refine ⟨_, rfl, rfl, rounds_cut (k := k + 2) negative (by decide) ?_ past⟩
      have same : (0x10000000000000 * 2 ^ (k + 2) : ℤ) = m * 2 ^ (k + 1) := by
        rw [carried]
        push_cast
        ring
      have wider : (2 : ℤ) ^ (k + 1) ≤ 2 ^ (k + 2) := by
        exact_mod_cast Nat.pow_le_pow_right (by decide) (by omega : k + 1 ≤ k + 2)
      push_cast
      rw [same]
      exact close.trans wider

/-- Every integer of 64 bits, signed or not, has a nearest floating-point number. -/
theorem exists_ofInt? {n : Int} (small : n.natAbs < 2 ^ 64) :
    ∃ x, ofInt? n = some x ∧ x.negative = decide (n < 0) ∧ x.Rounds n.natAbs :=
  exists_ofRatio? _ small

end Finite64

end IngestConsole.Numeral
