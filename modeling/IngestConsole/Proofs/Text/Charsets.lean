import Mathlib.Tactic.SplitIfs
import IngestConsole.Proofs.Text.Utf8
import IngestConsole.Text.Charset

/-!
# What bytes are read as

A text that is sent in UTF-8, or in UTF-16 behind a byte order mark, is read as itself.  Bytes
without a mark of UTF-16 that are sent in UTF-8 are read as such; only three bytes are read as the
mark of UTF-8, so that sniffing for it and dropping it from the text come to the same.
-/

set_option autoImplicit false

namespace IngestConsole.Text

/-- The bytes start with a byte order mark of UTF-16. -/
def IsMarkedUtf16 (bytes : List UInt8) : Prop :=
  [0xff, 0xfe] <+: bytes ∨ [0xfe, 0xff] <+: bytes

/-! ## The mark of UTF-8 -/

/-- A code point that makes the mark is that of the mark. -/
theorem eq_of_ofNat_eq_mark {n : Nat} (h : Char.ofNat n = '\ufeff') : n = 0xfeff := by
  by_cases valid : n.isValidChar
  · have value : (Char.ofNat n).toNat = n := by
      rw [Char.ofNat, dif_pos valid]
      rfl
    rw [← value, h]
    rfl
  · rw [Char.ofNat, dif_neg valid] at h
    exact absurd h (by decide)

/-- Reading the mark of UTF-8. -/
theorem readChar_mark (rest : List UInt8) :
    readChar 0xef (0xbb :: 0xbf :: rest) = ('\ufeff', rest) :=
  rfl

/-- What a first byte of three says of the character. -/
theorem of_lead_triple {b : UInt8} {bits low high : Nat} (h : Lead.of b = .triple bits low high) :
    b.toNat = bits + 0xe0 ∧ 0x80 ≤ low ∧ high ≤ 0xbf := by
  unfold Lead.of at h
  simp only at h
  split_ifs at h <;> simp only [Lead.triple.injEq] at h <;> omega

/-- A first byte of two adds at most five bits. -/
theorem of_lead_pair {b : UInt8} {bits : Nat} (h : Lead.of b = .pair bits) : bits < 0x20 := by
  unfold Lead.of at h
  simp only at h
  split_ifs at h <;> simp only [Lead.pair.injEq] at h <;> omega

/-- A first byte of four leaves no room for a code point of two bytes. -/
theorem of_lead_quadruple {b : UInt8} {bits low high : Nat}
    (h : Lead.of b = .quadruple bits low high) : 0 < bits ∨ 0x90 ≤ low := by
  unfold Lead.of at h
  simp only at h
  split_ifs at h <;> simp only [Lead.quadruple.injEq] at h <;> omega

/-- Only three bytes spell the code point of the mark. -/
theorem SpellsCode.mark {b : UInt8} {rest : List UInt8} {n : Nat} (h : SpellsCode b rest n)
    (mark : n = 0xfeff) : [0xef, 0xbb, 0xbf] <+: b :: rest := by
  -- the code point settles each of three bytes, and is out of reach for fewer or more
  cases h with
  | single lead =>
    have := b.toNat_lt
    omega
  | pair lead second =>
    have := of_lead_pair lead
    have := bounds_of_within second
    unfold addBits at mark
    omega
  | @triple c d rest _ _ _ lead second third =>
    obtain ⟨first, lowest, highest⟩ := of_lead_triple lead
    have := bounds_of_within second
    have := bounds_of_within third
    unfold addBits at mark
    have first : b = 0xef := UInt8.toNat_inj.1 (by show b.toNat = 0xef; omega)
    have second : c = 0xbb := UInt8.toNat_inj.1 (by show c.toNat = 0xbb; omega)
    have third : d = 0xbf := UInt8.toNat_inj.1 (by show d.toNat = 0xbf; omega)
    subst first second third
    exact ⟨rest, rfl⟩
  | quadruple lead second third fourth =>
    have := of_lead_quadruple lead
    have := bounds_of_within second
    have := bounds_of_within third
    have := bounds_of_within fourth
    unfold addBits at mark
    omega

/-- No other bytes are read as the mark. -/
theorem mark_of_readChar {b : UInt8} {rest : List UInt8} (h : (readChar b rest).1 = '\ufeff') :
    [0xef, 0xbb, 0xbf] <+: b :: rest := by
  rcases readChar_cases b rest with replaced | ⟨n, spells, read⟩
  · exact absurd (replaced.symm.trans h) (by decide)
  · exact spells.mark (eq_of_ofNat_eq_mark (read.symm.trans h))

/-! ## UTF-8 -/

/-- Bytes without a mark of UTF-16 that are sent in UTF-8 are read as such, and a byte order mark of
theirs is dropped. -/
theorem Charset.decode_of_unmarked {bytes : List UInt8} (unmarked : ¬IsMarkedUtf16 bytes) :
    utf8.decode bytes = decodeUtf8 bytes := by
  have little : [0xff, 0xfe].isPrefixOf bytes = false :=
    Bool.eq_false_iff.2 fun h => unmarked (.inl (List.isPrefixOf_iff_prefix.1 h))
  have big : [0xfe, 0xff].isPrefixOf bytes = false :=
    Bool.eq_false_iff.2 fun h => unmarked (.inr (List.isPrefixOf_iff_prefix.1 h))
  by_cases marked : [0xef, 0xbb, 0xbf] <+: bytes
  · obtain ⟨rest, rfl⟩ := marked
    have read : decodeBytes (0xef :: 0xbb :: 0xbf :: rest) = '\ufeff' :: decodeBytes rest := by
      rw [decodeBytes, readChar_mark]
    show decodeBytes rest = decodeUtf8 (0xef :: 0xbb :: 0xbf :: rest)
    rw [decodeUtf8, read]
    rfl
  · have bare : [0xef, 0xbb, 0xbf].isPrefixOf bytes = false :=
      Bool.eq_false_iff.2 fun h => marked (List.isPrefixOf_iff_prefix.1 h)
    have plain : utf8.decode bytes = decodeBytes bytes := by
      simp only [decode, mark?, marks, List.find?_cons, List.find?_nil, bare, little, big,
        decodeUnmarked]
    rw [plain, decodeUtf8]
    split
    · next rest read =>
      cases bytes with
      | nil =>
        rw [decodeBytes] at read
        cases read
      | cons b bytes =>
        rw [decodeBytes] at read
        exact absurd (mark_of_readChar (List.cons.inj read).1) marked
    · rfl

/-- No byte of a text in UTF-8 is a byte of a mark of UTF-16. -/
theorem not_isMarkedUtf16_utf8 (s : List Char) : ¬IsMarkedUtf16 (utf8 s) := by
  intro marked
  cases s with
  | nil => rcases marked with ⟨rest, h⟩ | ⟨rest, h⟩ <;> cases h
  | cons c s =>
    obtain ⟨b, bs, bytes, read⟩ := readChar_encoded c []
    have first : b = 0xff ∨ b = 0xfe := by
      rw [utf8, List.flatMap_cons, bytes] at marked
      rcases marked with ⟨rest, h⟩ | ⟨rest, h⟩
      · exact .inl (List.cons.inj h).1.symm
      · exact .inr (List.cons.inj h).1.symm
    have lead : Lead.of b = .none := by
      rcases first with rfl | rfl <;> rfl
    -- such a byte is replaced, so the character is the replacement, which has other bytes
    rw [readChar, lead] at read
    have same : c = replacement := (Prod.mk.inj read).1.symm
    rw [same] at bytes
    have other : b = 0xef := (List.cons.inj (bytes.symm.trans rfl)).1
    rcases first with rfl | rfl <;> exact absurd other (by decide)

/-- A text that does not start with a byte order mark is read from its bytes in UTF-8. -/
theorem Charset.decode_utf8 {s : List Char} (plain : s.head? ≠ some '\ufeff') :
    utf8.decode (Text.utf8 s) = s := by
  rw [decode_of_unmarked (not_isMarkedUtf16_utf8 s), decodeUtf8_utf8 plain]

/-! ## UTF-16 -/

/-- Units are read from their bytes. -/
theorem units_bytes (order : ByteOrder) {us : List Nat} (small : ∀ u ∈ us, u < 0x10000) :
    units order (us.flatMap order.bytes) = us.map some := by
  induction us with
  | nil => rfl
  | cons u us ih =>
    have fits : u < 0x10000 := small u List.mem_cons_self
    have low : (UInt8.ofNat (u % 256)).toNat = u % 256 := toNat_byte (by omega)
    have high : (UInt8.ofNat (u / 256)).toNat = u / 256 := toNat_byte (by omega)
    have here : units order (order.bytes u ++ us.flatMap order.bytes) =
        some u :: units order (us.flatMap order.bytes) := by
      cases order
      all_goals
        simp only [ByteOrder.bytes, List.cons_append, List.nil_append, units, ByteOrder.unit, low,
          high, List.cons.injEq, Option.some.injEq, and_true]
        omega
    rw [List.flatMap_cons, here, ih fun v h => small v (List.mem_cons_of_mem u h), List.map_cons]

/-- The units of a character fit into two bytes. -/
theorem charUnits_lt (c : Char) : ∀ u ∈ charUnits c, u < 0x10000 := by
  have range := toNat_range c
  unfold charUnits
  simp only
  split
  · simpa using by assumption
  · simp only [List.mem_cons, List.not_mem_nil, or_false, forall_eq_or_imp, forall_eq]
    omega

/-- A character is read from its units, whatever units follow. -/
theorem decodeUnits_charUnits (c : Char) (us : List Nat) :
    decodeUnits ((charUnits c ++ us).map some) = c :: decodeUnits (us.map some) := by
  have range := toNat_range c
  unfold charUnits
  simp only
  split
  · next small =>
    have noFirst : isFirstHalf c.toNat = false := by
      simp only [isFirstHalf, Bool.and_eq_false_iff, decide_eq_false_iff_not]
      omega
    have noSecond : isSecondHalf c.toNat = false := by
      simp only [isSecondHalf, Bool.and_eq_false_iff, decide_eq_false_iff_not]
      omega
    have alone : loneUnit c.toNat = c := by
      simp [loneUnit, noFirst, noSecond]
    cases us with
    | nil => simp [decodeUnits, alone]
    | cons u us => simp [decodeUnits, noFirst, alone]
  · next large =>
    have first : isFirstHalf (0xd800 + (c.toNat - 0x10000) / 0x400) = true := by
      simp only [isFirstHalf, Bool.and_eq_true, decide_eq_true_eq]
      omega
    have second : isSecondHalf (0xdc00 + (c.toNat - 0x10000) % 0x400) = true := by
      simp only [isSecondHalf, Bool.and_eq_true, decide_eq_true_eq]
      omega
    have joined : joinHalves (0xd800 + (c.toNat - 0x10000) / 0x400)
        (0xdc00 + (c.toNat - 0x10000) % 0x400) = c := by
      have whole : 0x10000 + (0xd800 + (c.toNat - 0x10000) / 0x400 - 0xd800) * 0x400 +
          (0xdc00 + (c.toNat - 0x10000) % 0x400 - 0xdc00) = c.toNat := by
        omega
      rw [joinHalves, whole, Char.ofNat_toNat]
    simp only [List.cons_append, List.nil_append, List.map_cons, decodeUnits, first, second,
      Bool.and_self, if_true, joined]

/-- A text is read from its bytes in UTF-16. -/
theorem decodeUtf16_utf16 (order : ByteOrder) (s : List Char) :
    decodeUtf16 order (utf16 order s) = s := by
  have small : ∀ u ∈ s.flatMap charUnits, u < 0x10000 := by
    intro u h
    obtain ⟨c, -, h⟩ := List.mem_flatMap.1 h
    exact charUnits_lt c u h
  rw [decodeUtf16, utf16, units_bytes order small]
  clear small
  induction s with
  | nil => rfl
  | cons c s ih => rw [List.flatMap_cons, decodeUnits_charUnits, ih]

/-- A text in UTF-16 behind its mark is read as itself, whatever charset it is said to be sent in. -/
theorem Charset.decode_utf16 (c : Charset) (s : List Char) :
    c.decode ([0xff, 0xfe] ++ Text.utf16 .littleEndian s) = s ∧
      c.decode ([0xfe, 0xff] ++ Text.utf16 .bigEndian s) = s :=
  ⟨decodeUtf16_utf16 .littleEndian s, decodeUtf16_utf16 .bigEndian s⟩

end IngestConsole.Text
