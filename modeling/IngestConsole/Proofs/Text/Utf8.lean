import IngestConsole.Text.Utf8

/-!
# The bytes of a text are read as the text

Each character is read back from its own bytes, whatever follows them: what the first byte says of
the second leaves out just what is no character, the surrogates and what needs fewer bytes.  Only a
byte order mark at the start of a text is lost.  Of other bytes, those that spell a code point are
read as it, and all else as replacements.
-/

set_option autoImplicit false

namespace IngestConsole.Text

/-! ## Bytes -/

/-- A small number fits a byte. -/
theorem toNat_byte {n : Nat} (small : n < 256) : (UInt8.ofNat n).toNat = n :=
  UInt8.toNat_ofNat_of_lt' small

/-- Six bits make a byte that continues a character. -/
theorem continues_byte (n : Nat) : continues (UInt8.ofNat (n % 64 + 128)) = true := by
  have small : n % 64 + 128 < 256 := by omega
  simp only [continues, within, toNat_byte small, Bool.and_eq_true, decide_eq_true_eq]
  omega

/-- A byte that continues a character adds its six bits. -/
theorem addBits_byte (bits n : Nat) :
    addBits bits (UInt8.ofNat (n % 64 + 128)) = bits * 64 + n % 64 := by
  have small : n % 64 + 128 < 256 := by omega
  unfold addBits
  rw [toNat_byte small]
  omega

/-! ## What the first byte says -/

/-- Seven bits stand alone. -/
theorem lead_single {n : Nat} (h : n < 0x80) : Lead.of (UInt8.ofNat n) = .single := by
  have small : n < 256 := by omega
  simp only [Lead.of, toNat_byte small]
  rw [if_pos h]

/-- Five bits lead a pair. -/
theorem lead_pair {n : Nat} (low : 2 ≤ n) (high : n < 0x20) :
    Lead.of (UInt8.ofNat (n + 192)) = .pair n := by
  have small : n + 192 < 256 := by omega
  simp only [Lead.of, toNat_byte small]
  rw [if_neg (by omega), if_neg (by omega), if_pos (by omega), Nat.add_sub_cancel]

/-- The second byte of three: after the first of them it is not too small, and before the
surrogates it is not too large. -/
theorem lead_triple {n : Nat} (h : n < 0x10) :
    Lead.of (UInt8.ofNat (n + 224)) =
      .triple n (if n = 0 then 0xa0 else 0x80) (if n = 13 then 0x9f else 0xbf) := by
  have small : n + 224 < 256 := by omega
  simp only [Lead.of, toNat_byte small]
  rw [if_neg (by omega), if_neg (by omega), if_neg (by omega)]
  by_cases first : n = 0
  · subst first
    rfl
  rw [if_neg (by omega), if_neg first]
  by_cases surrogates : n = 13
  · subst surrogates
    rfl
  rw [if_neg (by omega), if_pos (by omega), if_neg surrogates, Nat.add_sub_cancel]

/-- Three bits lead four bytes, with the bounds that keep the character in range. -/
theorem lead_quadruple {n : Nat} (h : n ≤ 4) :
    Lead.of (UInt8.ofNat (n + 240)) =
      .quadruple n (if n = 0 then 0x90 else 0x80) (if n = 4 then 0x8f else 0xbf) := by
  have cases : n = 0 ∨ n = 1 ∨ n = 2 ∨ n = 3 ∨ n = 4 := by omega
  rcases cases with rfl | rfl | rfl | rfl | rfl
  all_goals rfl

/-! ## Characters -/

/-- A character is none of the surrogates. -/
theorem toNat_range (c : Char) : c.toNat < 0xd800 ∨ 0xdfff < c.toNat ∧ c.toNat < 0x110000 :=
  c.valid

/-- A character is read back from its bytes. -/
theorem readChar_encoded (c : Char) (rest : List UInt8) :
    ∃ b bs, String.utf8EncodeChar c = b :: bs ∧ readChar b (bs ++ rest) = (c, rest) := by
  have range := toNat_range c
  have whole : Char.ofNat c.toNat = c := Char.ofNat_toNat c
  have value : c.val.toNat = c.toNat := rfl
  unfold String.utf8EncodeChar
  simp only [value]
  -- by how many bytes the character needs
  by_cases one : c.toNat ≤ 127
  · have byte : (UInt8.ofNat c.toNat).toNat = c.toNat := toNat_byte (by omega)
    rw [if_pos one]
    refine ⟨_, [], rfl, ?_⟩
    rw [readChar, lead_single (by omega), byte, whole]
    rfl
  rw [if_neg one]
  by_cases two : c.toNat ≤ 2047
  · have high : c.toNat / 64 % 32 = c.toNat / 64 := by omega
    have bits : c.toNat / 64 * 64 + c.toNat % 64 = c.toNat := by omega
    rw [if_pos two, high]
    refine ⟨_, [UInt8.ofNat (c.toNat % 64 + 128)], rfl, ?_⟩
    rw [readChar, lead_pair (by omega) (by omega)]
    simp only [List.singleton_append, continues_byte, if_true, addBits_byte, bits, whole]
  rw [if_neg two]
  by_cases three : c.toNat ≤ 65535
  · have high : c.toNat / 4096 % 16 = c.toNat / 4096 := by omega
    have bits : (c.toNat / 4096 * 64 + c.toNat / 64 % 64) * 64 + c.toNat % 64 = c.toNat := by omega
    have second : c.toNat / 64 % 64 + 128 < 256 := by omega
    have inside : within (if c.toNat / 4096 = 0 then 0xa0 else 0x80)
        (if c.toNat / 4096 = 13 then 0x9f else 0xbf)
        (UInt8.ofNat (c.toNat / 64 % 64 + 128)) = true := by
      simp only [within, toNat_byte second, Bool.and_eq_true, decide_eq_true_eq]
      constructor
      · split <;> omega
      · split <;> omega
    rw [if_pos three, high]
    refine ⟨_, [UInt8.ofNat (c.toNat / 64 % 64 + 128), UInt8.ofNat (c.toNat % 64 + 128)], rfl, ?_⟩
    rw [readChar, lead_triple (by omega)]
    simp only [List.cons_append, List.nil_append, inside, continues_byte, if_true, addBits_byte,
      bits, whole]
  · have high : c.toNat / 262144 % 8 = c.toNat / 262144 := by omega
    have bits : ((c.toNat / 262144 * 64 + c.toNat / 4096 % 64) * 64 + c.toNat / 64 % 64) * 64 +
        c.toNat % 64 = c.toNat := by omega
    have second : c.toNat / 4096 % 64 + 128 < 256 := by omega
    have inside : within (if c.toNat / 262144 = 0 then 0x90 else 0x80)
        (if c.toNat / 262144 = 4 then 0x8f else 0xbf)
        (UInt8.ofNat (c.toNat / 4096 % 64 + 128)) = true := by
      simp only [within, toNat_byte second, Bool.and_eq_true, decide_eq_true_eq]
      constructor
      · split <;> omega
      · split <;> omega
    rw [if_neg three, high]
    refine ⟨_, [UInt8.ofNat (c.toNat / 4096 % 64 + 128), UInt8.ofNat (c.toNat / 64 % 64 + 128),
      UInt8.ofNat (c.toNat % 64 + 128)], rfl, ?_⟩
    rw [readChar, lead_quadruple (by omega)]
    simp only [List.cons_append, List.nil_append, inside, continues_byte, if_true, addBits_byte,
      bits, whole]

/-! ## Texts -/

/-- A text is read back from its bytes. -/
theorem decodeBytes_utf8 (s : List Char) : decodeBytes (utf8 s) = s := by
  induction s with
  | nil => rw [utf8, List.flatMap_nil, decodeBytes]
  | cons c rest ih =>
    obtain ⟨b, bs, bytes, read⟩ := readChar_encoded c (utf8 rest)
    have step : utf8 (c :: rest) = b :: (bs ++ utf8 rest) := by
      rw [utf8, List.flatMap_cons, bytes]
      rfl
    rw [step, decodeBytes, read, ih]

/-- A text is read from its bytes, unless it starts with a byte order mark. -/
theorem decodeUtf8_utf8 {s : List Char} (plain : s.head? ≠ some '\ufeff') :
    decodeUtf8 (utf8 s) = s := by
  rw [decodeUtf8, decodeBytes_utf8]
  split
  · exact absurd rfl plain
  · rfl

/-! ## What other bytes are read as -/

/-- The bytes from a first one on spell a code point. -/
inductive SpellsCode : UInt8 → List UInt8 → Nat → Prop
  | single {b : UInt8} {rest : List UInt8} (lead : Lead.of b = .single) :
    SpellsCode b rest b.toNat
  | pair {b c : UInt8} {rest : List UInt8} {bits : Nat} (lead : Lead.of b = .pair bits)
    (second : continues c = true) : SpellsCode b (c :: rest) (addBits bits c)
  | triple {b c d : UInt8} {rest : List UInt8} {bits low high : Nat}
    (lead : Lead.of b = .triple bits low high) (second : within low high c = true)
    (third : continues d = true) : SpellsCode b (c :: d :: rest) (addBits (addBits bits c) d)
  | quadruple {b c d e : UInt8} {rest : List UInt8} {bits low high : Nat}
    (lead : Lead.of b = .quadruple bits low high) (second : within low high c = true)
    (third : continues d = true) (fourth : continues e = true) :
    SpellsCode b (c :: d :: e :: rest) (addBits (addBits (addBits bits c) d) e)

/-- What is read is the character of the code point that the bytes spell, or a replacement. -/
theorem readChar_cases (b : UInt8) (rest : List UInt8) :
    (readChar b rest).1 = replacement ∨
      ∃ n, SpellsCode b rest n ∧ (readChar b rest).1 = Char.ofNat n := by
  unfold readChar
  cases lead : Lead.of b with
  | none => exact .inl rfl
  | single => exact .inr ⟨_, .single lead, rfl⟩
  | pair bits =>
    rcases rest with _ | ⟨c, rest⟩
    · exact .inl rfl
    · by_cases second : continues c = true
      · exact .inr ⟨_, .pair lead second, by simp only [if_pos second]⟩
      · exact .inl (by simp only [if_neg second])
  | triple bits low high =>
    rcases rest with _ | ⟨c, rest⟩
    · exact .inl rfl
    · by_cases second : within low high c = true
      · rcases rest with _ | ⟨d, rest⟩
        · exact .inl (by simp only [if_pos second])
        · by_cases third : continues d = true
          · exact .inr ⟨_, .triple lead second third,
              by simp only [if_pos second, if_pos third]⟩
          · exact .inl (by simp only [if_pos second, if_neg third])
      · exact .inl (by simp only [if_neg second])
  | quadruple bits low high =>
    rcases rest with _ | ⟨c, rest⟩
    · exact .inl rfl
    · by_cases second : within low high c = true
      · rcases rest with _ | ⟨d, rest⟩
        · exact .inl (by simp only [if_pos second])
        · by_cases third : continues d = true
          · rcases rest with _ | ⟨e, rest⟩
            · exact .inl (by simp only [if_pos second, if_pos third])
            · by_cases fourth : continues e = true
              · exact .inr ⟨_, .quadruple lead second third fourth,
                  by simp only [if_pos second, if_pos third, if_pos fourth]⟩
              · exact .inl (by simp only [if_pos second, if_pos third, if_neg fourth])
          · exact .inl (by simp only [if_pos second, if_neg third])
      · exact .inl (by simp only [if_neg second])

/-- A byte within bounds, as numbers. -/
theorem bounds_of_within {low high : Nat} {b : UInt8} (h : within low high b = true) :
    low ≤ b.toNat ∧ b.toNat ≤ high := by
  simpa [within] using h

end IngestConsole.Text
