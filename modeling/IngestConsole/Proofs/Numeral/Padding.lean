import IngestConsole.Numeral.Decimal
import Mathlib.Algebra.Group.Nat.Defs

/-!
# Numerals of a fixed width

A numeral that is filled with zeros has its width, and of two numerals of one width the one with the
smaller value comes first.
-/

set_option autoImplicit false

namespace IngestConsole.Numeral

/-! ## Values of digits -/

/-- The value of a character as a digit. -/
def digitValue (c : Char) : Nat :=
  c.toNat - '0'.toNat

/-- A digit stands at its value behind the zero. -/
theorem toNat_eq_digitValue {c : Char} (digit : c.isDigit = true) :
    c.toNat = '0'.toNat + digitValue c := by
  have low := (Char.isDigit_iff_toNat.1 digit).1
  rw [digitValue]
  omega

/-- A digit is worth nine at most. -/
theorem digitValue_le {c : Char} (digit : c.isDigit = true) : digitValue c ≤ 9 :=
  Nat.sub_le_sub_right (Char.isDigit_iff_toNat.1 digit).2 _

/-- The first digit counts as often as the digits behind it can be written. -/
theorem ofDigits_cons (c : Char) (ds : List Char) :
    ofDigits (c :: ds) = digitValue c * 10 ^ ds.length + ofDigits ds := by
  rw [ofDigits, ofDigits, Nat.ofDigitChars_cons, Nat.ofDigitChars_eq_ofDigitChars_zero, Nat.mul_zero,
    Nat.zero_add, Nat.mul_comm, digitValue]

/-- A digit behind others adds its value to ten times theirs. -/
theorem ofDigits_concat (ds : List Char) (c : Char) :
    ofDigits (ds ++ [c]) = 10 * ofDigits ds + digitValue c := by
  rw [ofDigits, Nat.ofDigitChars_append, Nat.ofDigitChars_cons, Nat.ofDigitChars_nil]
  rfl

/-- Digits stand for less than the power of ten of their number. -/
theorem ofDigits_lt {ds : List Char} (digits : ∀ c ∈ ds, c.isDigit = true) :
    ofDigits ds < 10 ^ ds.length := by
  induction ds with
  | nil => decide
  | cons c ds ih =>
    obtain ⟨digit, later⟩ := List.forall_mem_cons.1 digits
    calc ofDigits (c :: ds)
        = digitValue c * 10 ^ ds.length + ofDigits ds := ofDigits_cons c ds
      _ < digitValue c * 10 ^ ds.length + 10 ^ ds.length := Nat.add_lt_add_left (ih later) _
      _ = (digitValue c + 1) * 10 ^ ds.length := (Nat.succ_mul ..).symm
      _ ≤ 10 * 10 ^ ds.length := Nat.mul_le_mul_right _ (Nat.succ_le_succ (digitValue_le digit))
      _ = 10 ^ (c :: ds).length := by rw [List.length_cons, Nat.pow_succ, Nat.mul_comm]

/-- The numeral of a number stands for it. -/
theorem ofDigits_digits (n : Nat) : ofDigits (digits n) = n :=
  Nat.ofDigitChars_ten_toDigits

/-! ## Numerals -/

/-- The text is a numeral of `width` digits with the value `n`. -/
structure IsNumeral (width : Nat) (ds : List Char) (n : Nat) : Prop where
  length : ds.length = width
  digits : ∀ c ∈ ds, c.isDigit = true
  value : ofDigits ds = n

/-- A number that fits is padded to a numeral of the width. -/
theorem isNumeral_padded {width n : Nat} (positive : 0 < width) (fits : n < 10 ^ width) :
    IsNumeral width (padded width n) n where
  length := by
    have short : (digits n).length ≤ width :=
      (Nat.length_toDigits_le_iff (by decide) positive).2 fits
    rw [padded, List.length_append, List.length_replicate]
    omega
  digits c mem := by
    rcases List.mem_append.1 mem with zero | digit
    · rw [List.eq_of_mem_replicate zero]
      rfl
    · exact Nat.isDigit_of_mem_toDigits (by decide) (by decide) digit
  value := by
    rw [ofDigits, padded, Nat.ofDigitChars_append, Nat.ofDigitChars_replicate_zero, Nat.mul_zero]
    exact ofDigits_digits n

/-- Digits of one number are compared like their values: where the first digits differ, the digits
behind them do not outweigh the difference. -/
theorem lt_of_ofDigits_lt {as bs : List Char} (length : as.length = bs.length)
    (digits : ∀ c ∈ as, c.isDigit = true) (digits' : ∀ c ∈ bs, c.isDigit = true)
    (less : ofDigits as < ofDigits bs) : as < bs := by
  induction as generalizing bs with
  | nil =>
    cases bs with
    | nil => exact absurd less (Nat.lt_irrefl _)
    | cons b bs => cases length
  | cons a as ih =>
    cases bs with
    | nil => cases length
    | cons b bs =>
      obtain ⟨digit, later⟩ := List.forall_mem_cons.1 digits
      obtain ⟨digit', later'⟩ := List.forall_mem_cons.1 digits'
      have rest : as.length = bs.length := Nat.succ.inj length
      rw [ofDigits_cons, ofDigits_cons, rest] at less
      rw [List.cons_lt_cons_iff]
      rcases Nat.lt_trichotomy (digitValue a) (digitValue b) with first | same | first
      · left
        rw [Char.lt_def, UInt32.lt_iff_toNat_lt]
        have := toNat_eq_digitValue digit
        have := toNat_eq_digitValue digit'
        simp only [Char.toNat] at *
        omega
      · right
        refine ⟨?_, ih rest later later' (by rw [same] at less; omega)⟩
        rw [← Char.toNat_inj, toNat_eq_digitValue digit, toNat_eq_digitValue digit', same]
      · have bound : ofDigits bs < 10 ^ bs.length := ofDigits_lt later'
        have more := Nat.mul_le_mul_right (10 ^ bs.length) (Nat.succ_le_of_lt first)
        rw [Nat.succ_mul] at more
        omega

/-- Numerals of one width are ordered as their numbers. -/
theorem IsNumeral.lt {width n n' : Nat} {ds ds' : List Char} (numeral : IsNumeral width ds n)
    (numeral' : IsNumeral width ds' n') (less : n < n') : ds < ds' :=
  lt_of_ofDigits_lt (numeral.length.trans numeral'.length.symm) numeral.digits numeral'.digits
    (by rwa [numeral.value, numeral'.value])

/-! ## The order of texts -/

/-- Texts whose beginnings of one length differ are compared by those. -/
theorem append_lt_append {as bs : List Char} (length : as.length = bs.length) (less : as < bs)
    (s t : List Char) : as ++ s < bs ++ t := by
  induction as generalizing bs with
  | nil =>
    cases bs with
    | nil => exact absurd less (List.lt_irrefl _)
    | cons b bs => cases length
  | cons a as ih =>
    cases bs with
    | nil => cases length
    | cons b bs =>
      rw [List.cons_append, List.cons_append, List.cons_lt_cons_iff]
      rcases List.cons_lt_cons_iff.1 less with first | ⟨same, later⟩
      · exact .inl first
      · exact .inr ⟨same, ih (Nat.succ.inj length) later⟩

/-- Texts that begin with numerals of one width are compared by these, and behind equal ones by what
follows. -/
theorem padded_append_lt {width n n' : Nat} (positive : 0 < width) (fits : n < 10 ^ width)
    (fits' : n' < 10 ^ width) {s t : List Char} (less : n < n' ∨ n = n' ∧ s < t) :
    padded width n ++ s < padded width n' ++ t := by
  have numeral := isNumeral_padded positive fits
  have numeral' := isNumeral_padded positive fits'
  rcases less with first | ⟨rfl, later⟩
  · exact append_lt_append (numeral.length.trans numeral'.length.symm) (numeral.lt numeral' first) s t
  · induction padded width n with
    | nil => exact later
    | cons c ds ih => exact List.cons_lt_cons_self.2 ih

end IngestConsole.Numeral
