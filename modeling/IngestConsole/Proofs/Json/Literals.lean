import IngestConsole.Proofs.Json.Grammar
import IngestConsole.Proofs.Numeral.Grouping

/-!
# Spelled literals are read

A string is read up to its closing quote as the characters that it spells, whichever escapes it
uses.  A number is read up to its end, and the digits of an integer of 64 bits denote that integer.
-/

set_option autoImplicit false

namespace IngestConsole.Json

open Numeral

/-! ## Strings -/

/-- A short escape is read as its character, and is none by a code unit. -/
theorem shortEscape?_of_mem {mark c : Char} (h : (mark, c) ∈ shortEscapes) :
    shortEscape? mark = some c ∧ mark ≠ 'u' := by
  have all : ∀ e ∈ shortEscapes, shortEscape? e.1 = some e.2 ∧ e.1 ≠ 'u' := by decide
  exact all _ h

/-- An escape by its code unit is read as that unit. -/
theorem readString_unit {a b c d : Char} {u : Nat} (digits : codeUnit? a b c d = some u)
    {s t : List Char} {pieces : List StringPiece} (read : readString s = some (pieces, t)) :
    readString ('\\' :: 'u' :: a :: b :: c :: d :: s) = some (.unit u :: pieces, t) := by
  rw [readString, digits, read]
  rfl

/-- A code unit that is no surrogate is a character, whatever follows it. -/
theorem stringValue?_unit {u : Nat} (single : u < 0xd800 ∨ 0xdfff < u)
    (pieces : List StringPiece) :
    stringValue? (.unit u :: pieces) = (stringValue? pieces).map (Char.ofNat u :: ·) := by
  have leading : isLeading u = false := by
    simp only [isLeading, Bool.and_eq_false_iff, decide_eq_false_iff_not]
    omega
  have trailing : isTrailing u = false := by
    simp only [isTrailing, Bool.and_eq_false_iff, decide_eq_false_iff_not]
    omega
  cases pieces with
  | nil => simp [stringValue?, leading, trailing]
  | cons p rest =>
    cases p with
    | char c => simp [stringValue?, leading, trailing]
    | unit v => simp [stringValue?, leading, trailing]

/-- The pieces that a spelled character is read as. -/
theorem exists_pieces_of_spellsChar {p : List Char} {c : Char} (h : SpellsChar p c) :
    ∃ ps : List StringPiece,
      (∀ s pieces t, readString s = some (pieces, t) →
        readString (p ++ s) = some (ps ++ pieces, t)) ∧
      ∀ pieces cs, stringValue? pieces = some cs → stringValue? (ps ++ pieces) = some (c :: cs) := by
  cases h with
  | plain printable quote backslash =>
    refine ⟨[.char c], ?_, ?_⟩
    · intro s pieces t read
      have fine : ¬(c.toNat < 0x20 ∨ c = '\\') := by
        intro h
        rcases h with control | same
        · omega
        · exact backslash same
      rw [List.singleton_append, readString]
      · simp [fine, read]
      · exact quote
      · exact fun a b c' d rest same => absurd same backslash
      · exact fun d rest same => absurd same backslash
    · intro pieces cs value
      simp [stringValue?, value]
  | short known =>
    rename_i mark
    obtain ⟨escape, notUnit⟩ := shortEscape?_of_mem known
    refine ⟨[.char c], ?_, ?_⟩
    · intro s pieces t read
      show readString ('\\' :: mark :: s) = _
      rw [readString]
      · simp [escape, read]
      · exact fun a b c' d rest same => absurd same notUnit
    · intro pieces cs value
      simp [stringValue?, value]
  | unit digits single =>
    rename_i u
    refine ⟨[.unit u], ?_, ?_⟩
    · intro s pieces t read
      exact readString_unit digits read
    · intro pieces cs value
      rw [List.singleton_append, stringValue?_unit single, value]
      rfl
  | pair digits digits' leading trailing =>
    rename_i u v
    refine ⟨[.unit u, .unit v], ?_, ?_⟩
    · intro s pieces t read
      exact readString_unit digits (readString_unit digits' read)
    · intro pieces cs value
      have first : isLeading u = true := by simpa [isLeading] using leading
      have second : isTrailing v = true := by simpa [isTrailing] using trailing
      simp [stringValue?, first, second, value]

/-- What spells characters is read in pieces that give these characters. -/
theorem exists_pieces_of_spellsChars {s cs t : List Char} (h : SpellsChars s cs t) :
    ∃ pieces, readString s = some (pieces, t) ∧ stringValue? pieces = some cs := by
  induction h with
  | close t => exact ⟨[], rfl, rfl⟩
  | char first rest ih =>
    obtain ⟨pieces, read, value⟩ := ih
    obtain ⟨ps, reads, values⟩ := exists_pieces_of_spellsChar first
    exact ⟨ps ++ pieces, reads _ _ _ read, values _ _ value⟩

/-! ## Numbers -/

/-- What is left of a text does not go on with a digit. -/
def EndsDigits (t : List Char) : Prop :=
  ∀ c ∈ t.head?, c.isDigit = false

/-- What ends a number ends its digits. -/
theorem EndsNumber.endsDigits {t : List Char} (h : EndsNumber t) : EndsDigits t := by
  intro c mem
  exact (h c mem).1

/-- Digits are read up to what ends them. -/
theorem spanDigits_append {ds t : List Char} (digits : ∀ d ∈ ds, d.isDigit = true)
    (ends : EndsDigits t) : spanDigits (ds ++ t) = (ds, t) := by
  have stop : t.takeWhile Char.isDigit = [] ∧ t.dropWhile Char.isDigit = t := by
    cases t with
    | nil => exact ⟨rfl, rfl⟩
    | cons c t =>
      have other : c.isDigit = false := ends c rfl
      simp [other]
  rw [spanDigits, List.takeWhile_append_of_pos digits, List.dropWhile_append_of_pos digits, stop.1,
    stop.2, List.append_nil]

/-- A whole part without a leading zero is read up to what ends its digits. -/
theorem readWhole_append {ds t : List Char} (digits : IsDigits ds)
    (noLeadingZero : ds.head? = some '0' → ds = ['0']) (ends : EndsDigits t) :
    readWhole (ds ++ t) = some (ds, t) := by
  have span := spanDigits_append digits.2 ends
  cases ds with
  | nil => exact absurd rfl digits.1
  | cons d ds =>
    by_cases zero : d = '0'
    · subst zero
      have alone : ds = [] := (List.cons.inj (noLeadingZero rfl)).2
      subst alone
      have next : t.head?.any Char.isDigit = false := by
        cases t with
        | nil => rfl
        | cons c t => exact ends c rfl
      simp [readWhole, next]
    · rw [List.cons_append] at span ⊢
      unfold readWhole
      split
      · next same => exact absurd (List.cons.inj same).1 zero
      · rw [span]

/-- A fraction is read up to what ends its digits. -/
theorem readFraction_append {fraction : Option (List Char)} {t : List Char}
    (digits : ∀ ds, fraction = some ds → IsDigits ds) (ends : EndsDigits t)
    (point : ∀ c ∈ t.head?, c ≠ '.') :
    readFraction (fraction.elim [] ('.' :: ·) ++ t) = some (fraction, t) := by
  cases fraction with
  | none =>
    show readFraction t = _
    unfold readFraction
    split
    · next rest => exact absurd rfl (point '.' rfl)
    · rfl
  | some ds =>
    obtain ⟨some_digit, all⟩ := digits ds rfl
    show readFraction ('.' :: (ds ++ t)) = _
    rw [readFraction, spanDigits_append all ends]
    cases ds with
    | nil => exact absurd rfl some_digit
    | cons d ds => rfl

/-- The digits of an exponent are read up to what ends them. -/
theorem readExponentDigits_append {ds t : List Char} (digits : IsDigits ds) (ends : EndsDigits t)
    (negative : Bool) : readExponentDigits negative (ds ++ t) = some (some ⟨negative, ds⟩, t) := by
  obtain ⟨some_digit, all⟩ := digits
  rw [readExponentDigits, spanDigits_append all ends]
  cases ds with
  | nil => exact absurd rfl some_digit
  | cons d ds => rfl

/-- An exponent is read up to what ends the number. -/
theorem readExponent_append {e t : List Char} {exponent : Option ExponentPart}
    (h : SpellsExponent e exponent) (ends : EndsNumber t) :
    readExponent (e ++ t) = some (exponent, t) := by
  cases h with
  | none =>
    cases t with
    | nil => rfl
    | cons c t =>
      obtain ⟨-, -, small, capital⟩ := ends c rfl
      simp [readExponent, small, capital]
  | unsigned mark digits =>
    rename_i ds
    obtain ⟨d, rest, rfl⟩ := List.exists_cons_of_ne_nil digits.1
    have digit : d.isDigit = true := digits.2 d List.mem_cons_self
    have plus : d ≠ '+' := by
      rintro rfl
      cases digit
    have minus : d ≠ '-' := by
      rintro rfl
      cases digit
    rw [List.cons_append, readExponent, if_pos mark]
    · exact readExponentDigits_append digits ends.endsDigits false
    · exact fun rest same => plus (List.cons.inj same).1
    · exact fun rest same => minus (List.cons.inj same).1
  | plus mark digits =>
    rw [List.cons_append, List.cons_append, readExponent, if_pos mark]
    exact readExponentDigits_append digits ends.endsDigits false
  | minus mark digits =>
    rw [List.cons_append, List.cons_append, readExponent, if_pos mark]
    exact readExponentDigits_append digits ends.endsDigits true

/-- An exponent, or the end of a number, starts with neither a digit nor a point. -/
theorem head_exponent {e t : List Char} {exponent : Option ExponentPart}
    (h : SpellsExponent e exponent) (ends : EndsNumber t) :
    ∀ c ∈ (e ++ t).head?, c.isDigit = false ∧ c ≠ '.' := by
  have marked : ∀ {mark : Char}, mark = 'e' ∨ mark = 'E' → mark.isDigit = false ∧ mark ≠ '.' := by
    intro mark h
    rcases h with rfl | rfl
    · decide
    · decide
  cases h with
  | none =>
    intro c mem
    obtain ⟨digit, point, -⟩ := ends c mem
    exact ⟨digit, point⟩
  | _ =>
    intro c mem
    cases mem
    exact marked (by assumption)

/-- A number is read up to its end, whatever stands behind it. -/
theorem readNumber_of_spellsLiteral {s : List Char} {l : NumberLiteral} (h : SpellsLiteral s l)
    {t : List Char} (ends : EndsNumber t) :
    ∃ unsigned, s = (if l.negative then ['-'] else []) ++ unsigned ∧
      readNumber l.negative (unsigned ++ t) = some (l, t) := by
  obtain ⟨e, exponent, rfl⟩ := h.exponent
  have after := head_exponent exponent ends
  have rest : EndsDigits (l.fraction.elim [] ('.' :: ·) ++ (e ++ t)) := by
    cases l.fraction with
    | none => exact fun c mem => (after c mem).1
    | some ds =>
      intro c mem
      cases mem
      decide
  refine ⟨l.whole ++ (l.fraction.elim [] ('.' :: ·) ++ e), by simp, ?_⟩
  have whole := readWhole_append h.whole h.noLeadingZero rest
  have fraction := readFraction_append h.fraction (fun c mem => (after c mem).1)
    fun c mem => (after c mem).2
  simp only [readNumber, List.append_assoc, whole, fraction, readExponent_append exponent ends,
    Option.bind_eq_bind, Option.bind_some]
  rfl

/-! ## Integers -/

/-- The numeral of a number is made of digits. -/
theorem isDigits_digits (n : Nat) : IsDigits (digits n) :=
  ⟨digits_ne_nil n, all_isDigit_digits n⟩

/-- Zero is the only number whose numeral starts with a zero. -/
theorem digits_noLeadingZero (n : Nat) (h : (digits n).head? = some '0') : digits n = ['0'] := by
  rw [eq_zero_of_head?_digits h]
  rfl

/-- The literal of an integer. -/
def intLiteral (n : Int) : NumberLiteral where
  negative := n < 0
  whole := digits n.natAbs
  fraction := none
  exponent := none

/-- The numeral of an integer spells its literal. -/
theorem spellsLiteral_intLiteral (n : Int) : SpellsLiteral (intDigits n) (intLiteral n) where
  whole := isDigits_digits n.natAbs
  noLeadingZero := digits_noLeadingZero n.natAbs
  fraction := fun _ same => by cases same
  exponent := by
    refine ⟨[], .none, ?_⟩
    by_cases negative : n < 0
    · simp [intDigits, intLiteral, negative]
    · simp [intDigits, intLiteral, negative]

/-- An integer of the wire is a number. -/
theorem ofInt?_val (n : WireInt) : Number.ofInt? n.val = some (.int n) := by
  rw [Number.ofInt?, dif_pos ⟨n.low, n.high⟩]

/-- The literal of an integer of the wire has that value. -/
theorem value?_intLiteral (n : WireInt) : (intLiteral n.val).value? = some (.int n) := by
  have whole := ofDigits_digits n.val.natAbs
  have low := n.low
  simp only [NumberLiteral.value?, intLiteral, whole]
  by_cases negative : n.val < 0
  · have bounds : 0 < n.val.natAbs ∧ n.val.natAbs ≤ 0x8000000000000000 := by omega
    have value : -(n.val.natAbs : Int) = n.val := by omega
    rw [if_pos (decide_eq_true negative), if_pos bounds, value, ofInt?_val]
    rfl
  · have value : (n.val.natAbs : Int) = n.val := by omega
    rw [if_neg (by simpa using negative), value, ofInt?_val]
    rfl

end IngestConsole.Json
