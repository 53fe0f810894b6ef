import IngestConsole.Text.Case

/-!
# Blanks and trimming

Trimming a text takes blanks from its ends and nothing else.  What is left begins with a character
that is not blank, also in its upper case.
-/

set_option autoImplicit false

namespace IngestConsole.Text

/-! ## Ends -/

/-- A text ends in a character that is not blank. -/
def EndsVisibly (s : List Char) : Prop :=
  ∃ u x, s = u ++ [x] ∧ isBlank x = false

/-- What stands before does not change how a text ends. -/
theorem EndsVisibly.append {s : List Char} (h : EndsVisibly s) (before : List Char) :
    EndsVisibly (before ++ s) := by
  obtain ⟨u, x, rfl, last⟩ := h
  exact ⟨before ++ u, x, (List.append_assoc _ _ _).symm, last⟩

/-- Trimming the end adds no characters. -/
theorem trimEnd_subset (s : List Char) : trimEnd s ⊆ s := by
  intro c mem
  rw [trimEnd, List.mem_reverse] at mem
  exact List.mem_reverse.1 ((List.dropWhile_suffix _).subset mem)

/-! ## Beginnings -/

/-- What is left by trimming begins with the first character that is not blank. -/
theorem isBlank_of_trim_eq_cons {s rest : List Char} {c : Char} (h : trim s = c :: rest) :
    isBlank c = false := by
  have first : c :: rest <+: trimStart s := by
    rw [← h, trim, trimEnd, ← List.reverse_suffix, List.reverse_reverse]
    exact List.dropWhile_suffix _
  obtain ⟨more, whole⟩ := first
  have head : (s.dropWhile isBlank).head? = some c := by
    rw [← trimStart, ← whole]
    rfl
  have visible := List.head?_dropWhile_not isBlank s
  rw [head] at visible
  simpa using visible

/-- Trimming adds no characters. -/
theorem trim_subset (s : List Char) : trim s ⊆ s := by
  intro c mem
  exact (List.dropWhile_suffix _).subset (trimEnd_subset _ mem)

/-- A text without blanks is not trimmed. -/
theorem trim_of_visible {s : List Char} (visible : ∀ c ∈ s, isBlank c = false) : trim s = s := by
  have unblanked {t : List Char} (same : t ⊆ s) : t.dropWhile isBlank = t := by
    cases t with
    | nil => rfl
    | cons c t =>
      have first : isBlank c = false := visible c (same List.mem_cons_self)
      exact List.dropWhile_cons_of_neg (by rw [first]; exact Bool.false_ne_true)
  have reversed : s.reverse ⊆ s := List.reverse_subset.2 (List.Subset.refl s)
  rw [trim, trimStart, unblanked (List.Subset.refl s), trimEnd, unblanked reversed,
    List.reverse_reverse]

/-! ## Upper case -/

/-- A code point behind the blank of ASCII is that of neither the blank nor the line feed, whether it
is one of a character or not. -/
theorem ofNat_ne {n : Nat} (high : 0x20 < n) : Char.ofNat n ≠ ' ' ∧ Char.ofNat n ≠ '\n' := by
  have value (c : Char) (same : Char.ofNat n = c) : c.toNat = n ∨ c.toNat = 0 := by
    rw [← same, Char.ofNat]
    by_cases valid : n.isValidChar
    · rw [dif_pos valid]
      exact .inl rfl
    · rw [dif_neg valid]
      exact .inr rfl
  have blank : ' '.toNat = 0x20 := rfl
  have feed : '\n'.toNat = 0x0a := rfl
  constructor
  · intro same
    have := value _ same
    omega
  · intro same
    have := value _ same
    omega

/-- The capital of a visible character of ASCII is neither a blank nor a line feed. -/
theorem toUpper_ne {c : Char} (ascii : c.toNat < 128) (visible : isBlank c = false) :
    c.toUpper ≠ ' ' ∧ c.toUpper ≠ '\n' := by
  have all : ∀ n < 128, isBlank (Char.ofNat n) = false →
      (Char.ofNat n).toUpper ≠ ' ' ∧ (Char.ofNat n).toUpper ≠ '\n' := by
    decide +kernel
  have this := all c.toNat ascii
  rw [Char.ofNat_toNat] at this
  exact this visible

/-- Capitals of several characters are visible, every one of them. -/
theorem lt_of_mem_upperExpansions {c : Nat} {cs : List Nat} (mem : (c, cs) ∈ upperExpansions) :
    cs ≠ [] ∧ ∀ n ∈ cs, 0x20 < n := by
  have all : ∀ e ∈ upperExpansions, e.2 ≠ [] ∧ ∀ n ∈ e.2, 0x20 < n := by decide +kernel
  exact all _ mem

/-- Capitals from the table are visible. -/
theorem lt_of_mappedBy? {c n : Nat} (h : mappedBy? upperRuns c = some n) : 0x20 < n := by
  have all : ∀ r ∈ upperRuns, 0x20 < (r.first : Int) + r.shift := by decide +kernel
  obtain ⟨r, mem, assigned⟩ := List.exists_of_findSome?_eq_some h
  have high := all r mem
  unfold CaseRun.assign? at assigned
  split at assigned
  · next within =>
    rw [← Option.some.inj assigned]
    omega
  · cases assigned

/-- The upper case of a character that is not blank does not begin with a blank, and has no line
feed. -/
theorem upperChar_of_not_isBlank {c : Char} (visible : isBlank c = false) :
    ∃ d ds, upperChar c = d :: ds ∧ d ≠ ' ' ∧ '\n' ∉ d :: ds := by
  unfold upperChar
  split
  · next ascii =>
    obtain ⟨blank, feed⟩ := toUpper_ne ascii visible
    exact ⟨_, _, rfl, blank, by simpa using Ne.symm feed⟩
  · next high =>
    split
    · next cs expanded =>
      obtain ⟨before, after, table, -⟩ := List.lookup_eq_some_iff.1 expanded
      obtain ⟨filled, above⟩ := lt_of_mem_upperExpansions
        (table ▸ List.mem_append_right before List.mem_cons_self)
      cases cs with
      | nil => exact absurd rfl filled
      | cons n rest =>
        refine ⟨_, _, rfl, (ofNat_ne (above n List.mem_cons_self)).1, ?_⟩
        rw [← List.map_cons, List.mem_map]
        rintro ⟨m, inside, same⟩
        exact (ofNat_ne (above m inside)).2 same
    · have other : c ≠ ' ' ∧ c ≠ '\n' := by
        constructor
        · rintro rfl
          exact high (by decide)
        · rintro rfl
          exact high (by decide)
      cases mapped : mappedBy? upperRuns c.toNat with
      | none => exact ⟨_, _, rfl, other.1, by simpa using Ne.symm other.2⟩
      | some n =>
        obtain ⟨blank, feed⟩ := ofNat_ne (lt_of_mappedBy? mapped)
        exact ⟨_, _, rfl, blank, by simpa using Ne.symm feed⟩

end IngestConsole.Text
