import IngestConsole.Proofs.Numeral.Grouping

/-!
# Readings of unsigned numerals

Digits whose value is below the bound are read as this value, since the value of fewer digits is no
larger.  So the numeral of a number of 64 bits is read as the number.
-/

set_option autoImplicit false

namespace IngestConsole.Numeral

/-- Digits do not lower the value of those before them. -/
theorem le_ofDigitChars (ds : List Char) (value : Nat) : value ≤ Nat.ofDigitChars 10 ds value := by
  rw [Nat.ofDigitChars_eq_ofDigitChars_zero]
  have power : 1 ≤ 10 ^ ds.length := Nat.pow_pos (by decide)
  calc value = 1 * value := (Nat.one_mul value).symm
    _ ≤ 10 ^ ds.length * value := Nat.mul_le_mul_right value power
    _ ≤ _ := Nat.le_add_right _ _

/-- Digits are read as the number they stand for, as long as it is below the bound. -/
theorem readDigits_eq_ok {bound value : Nat} {ds : List Char}
    (digits : ∀ c ∈ ds, c.isDigit = true) (fits : Nat.ofDigitChars 10 ds value < bound) :
    readDigits bound value ds = .ok (Nat.ofDigitChars 10 ds value) := by
  induction ds generalizing value with
  | nil => rfl
  | cons c ds ih =>
    obtain ⟨digit, later⟩ := List.forall_mem_cons.1 digits
    rw [Nat.ofDigitChars_cons, Nat.mul_comm] at fits ⊢
    have next : value * 10 + (c.toNat - '0'.toNat) < bound :=
      Nat.lt_of_le_of_lt (le_ofDigitChars ds _) fits
    rw [readDigits, if_pos digit]
    dsimp only
    rw [if_pos next, ih later fits]

/-- A numeral has no sign. -/
theorem readUnsigned_digits {bound n : Nat} (fits : n < bound) :
    readUnsigned bound (digits n) = .ok n := by
  have value : Nat.ofDigitChars 10 (digits n) 0 = n := ofDigits_digits n
  have read : readDigits bound 0 (digits n) = .ok n := by
    rw [readDigits_eq_ok (all_isDigit_digits n) (by rwa [value]), value]
  have noSign : '+' ∉ digits n := not_mem_digits rfl n
  unfold readUnsigned
  split
  · next empty => exact absurd empty Nat.toDigits_ne_nil
  · next sign =>
    exact absurd (sign ▸ List.mem_cons_self) noSign
  · next rest sign =>
    exact absurd (sign ▸ List.mem_cons_self) noSign
  · exact read

/-- A word is read back from its numeral. -/
theorem readUInt64_natText (n : UInt64) : readUInt64 (natText n.toNat) = .ok n := by
  rw [readUInt64, natText, String.toList_ofList, readUnsigned_digits n.toNat_lt]
  exact congrArg Except.ok (UInt64.ofNat_toNat)

end IngestConsole.Numeral
