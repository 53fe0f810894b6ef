import IngestConsole.Url.Percent
import Mathlib.Logic.Function.Basic

/-!
# Percent-encoded text can be read back

A text that is percent-encoded decodes to the bytes of the text, as long as the percent sign itself
is among the encoded characters.  Encoding is then injective, and no encoded character but the
percent sign and the hexadecimal digits stands in the result.
-/

set_option autoImplicit false

namespace IngestConsole.Url

open Numeral Text

/-! ## Decoding what was encoded -/

/-- A capital hexadecimal digit has the value it was written for. -/
theorem hexValue?_hexCapital : ∀ n < 16, hexValue? (hexCapital n) = some n := by
  decide

/-- The two halves of a byte are hexadecimal digits. -/
theorem nibbles_lt (b : UInt8) : b.toNat / 16 < 16 ∧ b.toNat % 16 < 16 := by
  have bound := b.toNat_lt
  omega

/-- An encoded byte decodes to itself. -/
theorem percentDecode_percentByte (b : UInt8) (rest : List Char) :
    percentDecode (percentByte b ++ rest) = b :: percentDecode rest := by
  obtain ⟨high, low⟩ := nibbles_lt b
  have whole : b.toNat / 16 * 16 + b.toNat % 16 = b.toNat := by omega
  simp only [percentByte, List.cons_append, List.nil_append, percentDecode,
    hexValue?_hexCapital _ high, hexValue?_hexCapital _ low]
  rw [whole, UInt8.ofNat_toNat]

/-- Encoded bytes are decoded, whatever stands behind them. -/
theorem percentDecode_percentBytes (bytes : List UInt8) (rest : List Char) :
    percentDecode (bytes.flatMap percentByte ++ rest) = bytes ++ percentDecode rest := by
  induction bytes with
  | nil => rfl
  | cons b bytes ih =>
    rw [List.flatMap_cons, List.append_assoc, percentDecode_percentByte, ih, List.cons_append]

/-- A character other than the percent sign decodes to its bytes. -/
theorem percentDecode_cons {c : Char} (h : c ≠ '%') (rest : List Char) :
    percentDecode (c :: rest) = String.utf8EncodeChar c ++ percentDecode rest := by
  rw [percentDecode]
  intro a b after percent
  exact absurd percent h

/-- A percent-encoded text decodes to the bytes of the text. -/
theorem percentDecode_percentEncode {set : Char → Bool} (percent : set '%' = true)
    (s : List Char) : percentDecode (percentEncode set s) = utf8 s := by
  induction s with
  | nil => rfl
  | cons c s ih =>
    rw [percentEncode, List.flatMap_cons, utf8, List.flatMap_cons]
    rw [percentEncode, utf8] at ih
    by_cases plain : (c.toNat < 128 && !set c) = true
    · have ne : c ≠ '%' := by
        rintro rfl
        simp [percent] at plain
      rw [if_pos plain, List.singleton_append, percentDecode_cons ne, ih]
    · rw [if_neg plain, percentDecode_percentBytes, ih]

/-! ## Injectivity -/

/-- Different texts have different bytes. -/
theorem utf8_injective : Function.Injective utf8 := by
  intro a b same
  have bytes : a.utf8Encode = b.utf8Encode := by
    simpa [List.utf8Encode, utf8] using congrArg List.toByteArray same
  exact String.ofList_injective (String.toByteArray_inj.1 (by simpa using bytes))

/-- Different texts are encoded differently. -/
theorem percentEncode_injective {set : Char → Bool} (percent : set '%' = true) :
    Function.Injective (percentEncode set) := by
  intro a b same
  have bytes := congrArg percentDecode same
  rw [percentDecode_percentEncode percent, percentDecode_percentEncode percent] at bytes
  exact utf8_injective bytes

/-! ## Characters of an encoded text -/

/-- An encoded byte is written with a percent sign, digits and letters. -/
theorem eq_percent_or_isAlphanum_of_mem_percentByte {b : UInt8} {c : Char}
    (h : c ∈ percentByte b) : c = '%' ∨ c.isAlphanum = true := by
  have digit : ∀ n < 16, (hexCapital n).isAlphanum = true := by decide
  obtain ⟨high, low⟩ := nibbles_lt b
  rw [percentByte, List.mem_cons, List.mem_cons, List.mem_singleton] at h
  rcases h with rfl | rfl | rfl
  · exact .inl rfl
  · exact .inr (digit _ high)
  · exact .inr (digit _ low)

/-- In an encoded text, a character that is neither a percent sign nor a digit nor a letter is one
that needs no encoding. -/
theorem not_mem_set_of_mem_percentEncode {set : Char → Bool} {s : List Char} {c : Char}
    (h : c ∈ percentEncode set s) (ne : c ≠ '%') (symbol : c.isAlphanum = false) :
    set c = false := by
  rw [percentEncode, List.mem_flatMap] at h
  obtain ⟨d, -, written⟩ := h
  by_cases plain : (d.toNat < 128 && !set d) = true
  · rw [if_pos plain, List.mem_singleton] at written
    subst written
    simpa using (Bool.and_eq_true_iff.1 plain).2
  · rw [if_neg plain, List.mem_flatMap] at written
    obtain ⟨b, -, digit⟩ := written
    rcases eq_percent_or_isAlphanum_of_mem_percentByte digit with percent | alphanum
    · exact absurd percent ne
    · simp [symbol] at alphanum

end IngestConsole.Url
