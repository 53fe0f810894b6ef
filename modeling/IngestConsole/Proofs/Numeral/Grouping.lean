import IngestConsole.Proofs.Numeral.Padding
import Mathlib.Data.List.Basic
import Mathlib.Data.List.Induction

/-!
# Groups of digits

A numeral determines its number, and the number its numeral, if that has no zero in front.  A
numeral in groups of three digits is the plain numeral with commas in it: without them nothing is
lost and nothing is added, and no other text has the number in such groups.
-/

set_option autoImplicit false

namespace IngestConsole.Numeral

/-! ## Numerals determine numbers -/

/-- Different numbers have different numerals. -/
theorem digits_injective : Function.Injective digits := by
  intro m n same
  calc m = ofDigits (digits m) := (ofDigits_digits m).symm
    _ = ofDigits (digits n) := by rw [same]
    _ = n := ofDigits_digits n

/-- A numeral is made of digits. -/
theorem isDigit_of_mem_digits {c : Char} {n : Nat} (mem : c ∈ digits n) : c.isDigit = true :=
  Nat.isDigit_of_mem_toDigits (by decide) (by decide) mem

/-- A numeral has at least one digit. -/
theorem digits_ne_nil (n : Nat) : digits n ≠ [] :=
  Nat.toDigits_ne_nil

/-- All characters of a numeral are digits. -/
theorem all_isDigit_digits (n : Nat) : ∀ c ∈ digits n, c.isDigit = true :=
  fun _ mem => isDigit_of_mem_digits mem

/-- What is no digit is in no numeral. -/
theorem not_mem_digits {c : Char} (other : c.isDigit = false) (n : Nat) : c ∉ digits n := by
  intro mem
  have digit := isDigit_of_mem_digits mem
  rw [other] at digit
  cases digit

/-- Different numbers have different texts. -/
theorem natText_injective : Function.Injective natText := by
  intro m n same
  exact digits_injective (String.ofList_injective same)

/-! ## Signs -/

/-- The minus sign of a negative number. -/
def minusSign (n : Int) : List Char :=
  if n < 0 then ['-'] else []

/-- The text of an integer is its sign and the numeral of its size. -/
theorem intText_eq (n : Int) : intText n = String.ofList (minusSign n ++ digits n.natAbs) := by
  unfold intText intDigits minusSign
  split
  · rfl
  · rfl

/-- The text of a number without a sign is its numeral. -/
theorem intText_natCast (n : Nat) : intText n = natText n := by
  have sign : ¬(n : Int) < 0 := by omega
  rw [intText, intDigits, if_neg sign, Int.natAbs_natCast, natText]

/-- The grouped text of an integer is its sign and the grouped numeral of its size. -/
theorem groupedText_eq (n : Int) :
    groupedText n = String.ofList (minusSign n ++ grouped (digits n.natAbs)) := by
  unfold groupedText minusSign
  split
  · rfl
  · rfl

/-! ## Readings -/

/-- Reads the numeral of a natural number. -/
def readNatural? (ds : List Char) : Option Nat :=
  if ds ≠ [] ∧ ds.all Char.isDigit then some (ofDigits ds) else none

/-- Reads the numeral of an integer: digits, behind a minus sign if it is negative. -/
def readInteger? (s : String) : Option Int :=
  match s.toList with
  | '-' :: ds => (readNatural? ds).map fun n : Nat => -(n : Int)
  | ds => (readNatural? ds).map fun n : Nat => (n : Int)

/-- Digits are read as the number they stand for. -/
theorem readNatural?_eq {ds : List Char} (some_digit : ds ≠ [])
    (all : ∀ c ∈ ds, c.isDigit = true) : readNatural? ds = some (ofDigits ds) :=
  if_pos ⟨some_digit, List.all_eq_true.2 all⟩

/-- Behind its sign an integer is read from the digits of its magnitude. -/
theorem readInteger?_signed {n : Int} {ds : List Char} (some_digit : ds ≠ [])
    (all : ∀ c ∈ ds, c.isDigit = true) :
    readInteger? (String.ofList (minusSign n ++ ds)) = some n ↔ ofDigits ds = n.natAbs := by
  have natural := readNatural?_eq some_digit all
  rw [readInteger?, String.toList_ofList, minusSign]
  by_cases negative : n < 0
  · rw [if_pos negative]
    simp only [List.singleton_append, natural, Option.map_some, Option.some.injEq]
    omega
  · rw [if_neg negative, List.nil_append]
    split
    · have signed := all '-' List.mem_cons_self
      cases signed
    · simp only [natural, Option.map_some, Option.some.injEq]
      omega

/-- An integer is read back from its text. -/
theorem readInteger?_intText (n : Int) : readInteger? (intText n) = some n := by
  rw [intText_eq, readInteger?_signed (digits_ne_nil _) (all_isDigit_digits _)]
  exact ofDigits_digits n.natAbs

/-- Different integers have different texts. -/
theorem intText_injective : Function.Injective intText := by
  intro m n same
  have read := readInteger?_intText m
  rw [same, readInteger?_intText] at read
  exact (Option.some.inj read).symm

/-! ## Numbers determine numerals -/

/-- Only the numeral of zero starts with a zero. -/
theorem eq_zero_of_head?_digits {n : Nat} (zero : (digits n).head? = some '0') : n = 0 := by
  induction n using Nat.strongRecOn with
  | ind n ih =>
    rcases Nat.lt_or_ge n 10 with small | large
    · rw [digits, Nat.toDigits_of_lt_base small] at zero
      exact Nat.digitChar_eq_zero.1 (Option.some.inj zero)
    · rw [digits, Nat.toDigits_of_base_le (by decide) large,
        List.head?_append_of_ne_nil _ Nat.toDigits_ne_nil] at zero
      have below : n / 10 < n := by omega
      have front := ih (n / 10) below zero
      omega

/-- A digit is the numeral of its value. -/
theorem digits_digitValue {c : Char} (digit : c.isDigit = true) : digits (digitValue c) = [c] := by
  have small : digitValue c < 10 := Nat.lt_succ_of_le (digitValue_le digit)
  have only : ∀ k < 10, Nat.digitChar k = Char.ofNat ('0'.toNat + k) := by decide
  rw [digits, Nat.toDigits_of_lt_base small, only _ small, ← toNat_eq_digitValue digit,
    Char.ofNat_toNat]

/-- Digits that do not begin with a zero are the numeral of their value. -/
theorem digits_ofDigits {ds : List Char} (some_digit : ds ≠ [])
    (all : ∀ c ∈ ds, c.isDigit = true) (leading : ds.head? ≠ some '0') :
    digits (ofDigits ds) = ds := by
  -- from the last digit on: the value of the ones before it is not zero
  induction ds using List.reverseRecOn with
  | nil => exact absurd rfl some_digit
  | append_singleton ds c ih =>
    obtain ⟨before, last⟩ := List.forall_mem_append.1 all
    have digit : c.isDigit = true := last c List.mem_cons_self
    by_cases only : ds = []
    · subst only
      rw [ofDigits_concat]
      exact (congrArg digits (Nat.zero_add _)).trans (digits_digitValue digit)
    · rw [List.head?_append_of_ne_nil _ only] at leading
      have front := ih only before leading
      have positive : 0 < ofDigits ds := by
        refine Nat.pos_of_ne_zero fun zero => leading ?_
        rw [← front, zero]
        rfl
      have small : digitValue c < 10 := Nat.lt_succ_of_le (digitValue_le digit)
      calc digits (ofDigits (ds ++ [c]))
          = digits (10 * ofDigits ds + digitValue c) := by rw [ofDigits_concat]
        _ = digits (ofDigits ds) ++ digits (digitValue c) :=
          (Nat.toDigits_append_toDigits (by decide) positive small).symm
        _ = ds ++ [c] := by rw [front, digits_digitValue digit]

/-! ## Commas -/

/-- A text without its commas. -/
def withoutCommas (s : String) : String :=
  String.ofList (s.toList.filter (· ≠ ','))

/-- Taking the commas out of grouped digits gives the digits back. -/
theorem filter_grouped {ds : List Char} (plain : ',' ∉ ds) :
    (grouped ds).filter (· ≠ ',') = ds := by
  induction ds with
  | nil => rfl
  | cons d rest ih =>
    have kept : d ≠ ',' := fun comma => plain (comma ▸ List.mem_cons_self)
    have later : ',' ∉ rest := fun mem => plain (List.mem_cons_of_mem d mem)
    unfold grouped
    split
    · rw [List.filter_cons_of_pos (by simpa using kept), List.filter_cons_of_neg (by simp),
        ih later]
    · rw [List.filter_cons_of_pos (by simpa using kept), ih later]

/-- Taking the commas out of a signed grouped numeral gives the signed numeral back. -/
theorem withoutCommas_signed (n : Int) {ds : List Char} (plain : ',' ∉ ds) :
    withoutCommas (String.ofList (minusSign n ++ grouped ds)) =
      String.ofList (minusSign n ++ ds) := by
  have kept : (minusSign n).filter (· ≠ ',') = minusSign n := by
    unfold minusSign
    split
    · rfl
    · rfl
  rw [withoutCommas, String.toList_ofList, List.filter_append, kept, filter_grouped plain]

/-- Grouping a numeral only inserts commas. -/
theorem withoutCommas_groupedText (n : Int) : withoutCommas (groupedText n) = intText n := by
  rw [groupedText_eq, withoutCommas_signed n (not_mem_digits rfl _), intText_eq]

/-! ## Groups -/

/-- The digits are cut into groups of three from the end on; the first group may be shorter. -/
structure InGroups (ds first : List Char) (later : List (List Char)) : Prop where
  split : ds = first ++ later.flatten
  some_digit : 1 ≤ first.length
  short : first.length ≤ 3
  full : ∀ g ∈ later, g.length = 3

/-- Digits can be cut into groups. -/
theorem exists_inGroups {ds : List Char} (some_digit : ds ≠ []) :
    ∃ first later, InGroups ds first later := by
  induction ds with
  | nil => exact absurd rfl some_digit
  | cons d rest ih =>
    by_cases last : rest = []
    · subst last
      exact ⟨[d], [], rfl, by simp, by simp, List.forall_mem_nil _⟩
    · obtain ⟨first, later, groups⟩ := ih last
      rcases Nat.lt_or_eq_of_le groups.short with room | full
      · refine ⟨d :: first, later, ?_, by simp, room, groups.full⟩
        rw [groups.split, List.cons_append]
      · refine ⟨[d], first :: later, ?_, by simp, by simp,
          List.forall_mem_cons.2 ⟨full, groups.full⟩⟩
        rw [groups.split]
        rfl

/-- In front of whole groups a group stays as it is, and one comma divides it from them. -/
theorem grouped_append {group tail : List Char} (some_digit : group ≠ [])
    (short : group.length ≤ 3) (whole : tail.length % 3 = 0) :
    grouped (group ++ tail) = group ++ if tail = [] then [] else ',' :: grouped tail := by
  induction group with
  | nil => exact absurd rfl some_digit
  | cons d rest ih =>
    rw [List.cons_append, grouped]
    by_cases last : rest = []
    · subst last
      by_cases none : tail = []
      · simp [none, grouped]
      · rw [List.nil_append, if_pos ⟨none, whole⟩, if_neg none]
        rfl
    · have within : rest.length ≠ 0 := fun none => last (List.length_eq_zero_iff.1 none)
      have open_group : ¬(rest ++ tail ≠ [] ∧ (rest ++ tail).length % 3 = 0) := by
        rintro ⟨-, full⟩
        rw [List.length_append] at full
        rw [List.length_cons] at short
        omega
      have shorter : rest.length ≤ 3 := Nat.le_of_succ_le short
      rw [if_neg open_group, ih last shorter, List.cons_append]

/-- Full groups have three digits each. -/
theorem length_flatten_of_full {later : List (List Char)} (full : ∀ g ∈ later, g.length = 3) :
    later.flatten.length = 3 * later.length := by
  induction later with
  | nil => rfl
  | cons g later ih =>
    obtain ⟨first, rest⟩ := List.forall_mem_cons.1 full
    rw [List.flatten_cons, List.length_append, first, ih rest, List.length_cons]
    omega

/-- Grouped digits are the groups with commas between them. -/
theorem InGroups.grouped_eq {ds first : List Char} {later : List (List Char)}
    (groups : InGroups ds first later) : grouped ds = first ++ later.flatMap (',' :: ·) := by
  obtain ⟨rfl, some_digit, short, full⟩ := groups
  induction later generalizing first with
  | nil =>
    rw [grouped_append (List.ne_nil_of_length_pos some_digit) short rfl]
    rfl
  | cons g later ih =>
    obtain ⟨three, rest⟩ := List.forall_mem_cons.1 full
    have whole : (g :: later).flatten.length % 3 = 0 := by
      rw [length_flatten_of_full full]
      omega
    have more : (g :: later).flatten ≠ [] := by
      refine List.ne_nil_of_length_pos ?_
      rw [length_flatten_of_full full, List.length_cons]
      omega
    rw [grouped_append (List.ne_nil_of_length_pos some_digit) short whole, if_neg more,
      List.flatten_cons, ih (by omega) (by omega) rest, List.flatMap_cons, List.cons_append]

/-! ## Texts in groups -/

/-- The text is the number in groups of digits with commas before them, and behind a minus sign if
the number is negative. -/
structure IsGrouped (n : Int) (s : String) (first : List Char) (later : List (List Char)) :
    Prop where
  written : s.toList = minusSign n ++ first ++ later.flatMap (',' :: ·)
  first_digits : ∀ c ∈ first, c.isDigit = true
  first_length : 1 ≤ first.length ∧ first.length ≤ 3
  later_digits : ∀ g ∈ later, ∀ c ∈ g, c.isDigit = true
  later_length : ∀ g ∈ later, g.length = 3
  leading : first.head? = some '0' → n = 0
  zero : n = 0 → s = "0"
  /-- Nothing but commas was added. -/
  read : readInteger? (withoutCommas s) = some n

/-- The groups of a numeral are those of its grouped text. -/
theorem InGroups.isGrouped {n : Int} {first : List Char} {later : List (List Char)}
    (groups : InGroups (digits n.natAbs) first later) :
    IsGrouped n (groupedText n) first later where
  written := by
    rw [groupedText_eq, String.toList_ofList, groups.grouped_eq, List.append_assoc]
  first_digits := by
    have all := all_isDigit_digits n.natAbs
    rw [groups.split] at all
    exact (List.forall_mem_append.1 all).1
  first_length := ⟨groups.some_digit, groups.short⟩
  later_digits g group c mem := by
    have all := all_isDigit_digits n.natAbs
    rw [groups.split] at all
    exact (List.forall_mem_append.1 all).2 c (List.mem_flatten.2 ⟨g, group, mem⟩)
  later_length := groups.full
  leading zero := by
    have some_digit := List.ne_nil_of_length_pos groups.some_digit
    rw [← List.head?_append_of_ne_nil first some_digit, ← groups.split] at zero
    exact Int.natAbs_eq_zero.1 (eq_zero_of_head?_digits zero)
  zero none := by
    rw [none]
    rfl
  read := by
    rw [withoutCommas_groupedText]
    exact readInteger?_intText n

/-- The groups are those of the digits that are read, and these have no zero in front. -/
theorem IsGrouped.eq_groupedText {n : Int} {s : String} {first : List Char}
    {later : List (List Char)} (h : IsGrouped n s first later) : s = groupedText n := by
  by_cases zero : n = 0
  · rw [h.zero zero, zero]
    rfl
  · have groups : InGroups (first ++ later.flatten) first later :=
      ⟨rfl, h.first_length.1, h.first_length.2, h.later_length⟩
    have all : ∀ c ∈ first ++ later.flatten, c.isDigit = true := by
      refine List.forall_mem_append.2 ⟨h.first_digits, fun c mem => ?_⟩
      obtain ⟨g, group, digit⟩ := List.mem_flatten.1 mem
      exact h.later_digits g group c digit
    have some_digit : first ≠ [] := List.ne_nil_of_length_pos h.first_length.1
    have some_digit' : first ++ later.flatten ≠ [] :=
      List.append_ne_nil_of_left_ne_nil some_digit _
    have text : s = String.ofList (minusSign n ++ grouped (first ++ later.flatten)) := by
      rw [groups.grouped_eq, ← List.append_assoc, ← h.written, String.ofList_toList]
    have plain : ',' ∉ first ++ later.flatten := by
      intro mem
      cases all ',' mem
    have value : ofDigits (first ++ later.flatten) = n.natAbs := by
      rw [← readInteger?_signed some_digit' all, ← withoutCommas_signed n plain, ← text]
      exact h.read
    have leading : (first ++ later.flatten).head? ≠ some '0' := by
      rw [List.head?_append_of_ne_nil _ some_digit]
      exact fun head => zero (h.leading head)
    rw [text, groupedText_eq, ← value, digits_ofDigits some_digit' all leading]

end IngestConsole.Numeral
