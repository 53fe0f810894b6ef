import IngestConsole.Text.Lines

/-!
# Lines with their ends

A text is made of lines, each with a line feed behind it and none within, in no more than one way.
A text that is read as lines and joined again by line feeds is the same text, unless it ends in a
line feed or has carriage returns.
-/

set_option autoImplicit false

namespace IngestConsole.Text

/-- The text is made of these lines, each with a line feed behind it and none within. -/
structure HasLines (s : List Char) (ls : List (List Char)) : Prop where
  text : s = ls.flatMap (· ++ ['\n'])
  within : ∀ l ∈ ls, '\n' ∉ l

/-- The empty text has no lines. -/
theorem hasLines_nil : HasLines [] [] :=
  ⟨rfl, List.forall_mem_nil _⟩

/-- A line in front of lines is one more line. -/
theorem hasLines_cons {l s : List Char} {ls : List (List Char)} (line : '\n' ∉ l)
    (rest : HasLines s ls) : HasLines (l ++ '\n' :: s) (l :: ls) := by
  refine ⟨?_, List.forall_mem_cons.2 ⟨line, rest.within⟩⟩
  rw [List.flatMap_cons, ← rest.text, List.append_assoc, List.singleton_append]

/-- Texts made of lines, in sequence, are made of the lines of both. -/
theorem HasLines.append {s t : List Char} {ls ls' : List (List Char)} (first : HasLines s ls)
    (second : HasLines t ls') : HasLines (s ++ t) (ls ++ ls') := by
  refine ⟨?_, List.forall_mem_append.2 ⟨first.within, second.within⟩⟩
  rw [first.text, second.text, List.flatMap_append]

/-- Lines that each end are lines with feeds between them and an empty one at the end. -/
theorem flatMap_ends_eq (ls : List (List Char)) :
    ls.flatMap (· ++ ['\n']) = ['\n'].intercalate (ls ++ [[]]) := by
  induction ls with
  | nil => rfl
  | cons l ls ih =>
    rw [List.flatMap_cons, ih, List.cons_append, List.intercalate_cons_of_ne_nil (by simp)]

/-- The lines of a text are what stands between its line feeds. -/
theorem HasLines.splitOn {s : List Char} {ls : List (List Char)} (h : HasLines s ls) :
    s.splitOn '\n' = ls ++ [[]] := by
  rw [h.text, flatMap_ends_eq, List.splitOn_intercalate]
  · intro l mem
    rcases List.mem_append.1 mem with line | last
    · exact h.within l line
    · rw [List.mem_singleton.1 last]
      exact List.not_mem_nil
  · simp

/-- A text is made of lines in one way. -/
theorem HasLines.unique {s : List Char} {ls ls' : List (List Char)} (h : HasLines s ls)
    (h' : HasLines s ls') : ls = ls' :=
  List.append_cancel_right (h.splitOn.symm.trans h'.splitOn)

/-! ## Joined lines -/

/-- A first part is joined to others by the separator. -/
theorem joinWith_cons (separator first : List Char) {rest : List (List Char)} (more : rest ≠ []) :
    joinWith separator (first :: rest) = first ++ separator ++ joinWith separator rest := by
  cases rest with
  | nil => exact absurd rfl more
  | cons second rest => rfl

/-- Joined lines lack only the end of the last one. -/
theorem hasLines_joinWith {ls : List (List Char)} (some_line : ls ≠ [])
    (within : ∀ l ∈ ls, '\n' ∉ l) : HasLines (joinWith ['\n'] ls ++ ['\n']) ls := by
  refine ⟨?_, within⟩
  induction ls with
  | nil => exact absurd rfl some_line
  | cons l ls ih =>
    by_cases last : ls = []
    · rw [last]
      simp [joinWith]
    · have rest := ih last (List.forall_mem_cons.1 within).2
      rw [joinWith_cons _ _ last, List.append_assoc, rest, List.flatMap_cons]

/-! ## Lines that were read -/

/-- Dropping a carriage return adds no characters. -/
theorem dropReturn_subset (line : List Char) : dropReturn line ⊆ line := by
  unfold dropReturn
  split
  · next rest same =>
    intro c mem
    have mem' : c ∈ line.reverse := by
      rw [same]
      exact List.mem_cons_of_mem _ (List.mem_reverse.1 mem)
    exact List.mem_reverse.1 mem'
  · exact List.Subset.refl line

/-- Without a carriage return none is dropped. -/
theorem dropReturn_of_not_mem {line : List Char} (noReturn : '\r' ∉ line) :
    dropReturn line = line := by
  unfold dropReturn
  split
  · next rest same =>
    have mem : '\r' ∈ line.reverse := by
      rw [same]
      exact List.mem_cons_self
    exact absurd (List.mem_reverse.1 mem) noReturn
  · rfl

/-- No line has a line feed in it, if the one that was begun has none. -/
theorem not_mem_of_mem_linesFrom {line s l : List Char} (before : '\n' ∉ line)
    (mem : l ∈ linesFrom line s) : '\n' ∉ l := by
  induction s generalizing line with
  | nil =>
    rw [linesFrom] at mem
    split at mem
    · exact absurd mem List.not_mem_nil
    · rw [List.mem_singleton.1 mem, List.mem_reverse]
      exact before
  | cons c s ih =>
    rw [linesFrom] at mem
    split at mem
    · rcases List.mem_cons.1 mem with rfl | later
      · intro inside
        exact before (List.mem_reverse.1 (dropReturn_subset _ inside))
      · exact ih List.not_mem_nil later
    · next other =>
      refine ih ?_ mem
      rw [List.mem_cons, not_or]
      exact ⟨Ne.symm other, before⟩

/-- No line has a line feed in it. -/
theorem not_mem_of_mem_lines {s l : List Char} (mem : l ∈ lines s) : '\n' ∉ l :=
  not_mem_of_mem_linesFrom List.not_mem_nil mem

/-- A text that is not empty has lines. -/
theorem linesFrom_ne_nil {line s : List Char} (filled : line ≠ [] ∨ s ≠ []) :
    linesFrom line s ≠ [] := by
  induction s generalizing line with
  | nil =>
    have started : line ≠ [] := filled.resolve_right (by simp)
    rw [linesFrom, if_neg (by simpa using started)]
    exact List.cons_ne_nil _ _
  | cons c s ih =>
    rw [linesFrom]
    split
    · exact List.cons_ne_nil _ _
    · exact ih (.inl (List.cons_ne_nil c line))

/-- The line that was begun is joined with what was read of the rest. -/
theorem joinWith_linesFrom {line s : List Char} (noReturn : '\r' ∉ line)
    (noReturn' : '\r' ∉ s) (unended : s.getLast? ≠ some '\n') :
    joinWith ['\n'] (linesFrom line s) = line.reverse ++ s := by
  induction s generalizing line with
  | nil =>
    rw [linesFrom]
    split
    · next empty =>
      rw [List.isEmpty_iff.1 empty]
      rfl
    · rw [List.append_nil]
      rfl
  | cons c s ih =>
    rw [List.mem_cons, not_or] at noReturn'
    rw [linesFrom]
    split
    · next feed =>
      -- the line feed is not the last character, so that another line follows
      have more : s ≠ [] := by
        rintro rfl
        exact unended (congrArg some feed)
      have unended' : s.getLast? ≠ some '\n' := by
        rwa [List.getLast?_cons_of_ne_nil more] at unended
      rw [joinWith_cons _ _ (linesFrom_ne_nil (.inr more)),
        ih List.not_mem_nil noReturn'.2 unended', dropReturn_of_not_mem (by simpa using noReturn), feed]
      simp
    · have unended' : s.getLast? ≠ some '\n' := by
        intro last
        apply unended
        rw [List.getLast?_cons, last]
        rfl
      have begun : '\r' ∉ c :: line := by
        rw [List.mem_cons, not_or]
        exact ⟨noReturn'.1, noReturn⟩
      rw [ih begun noReturn'.2 unended', List.reverse_cons, List.append_assoc,
        List.singleton_append]

/-- A text without carriage returns that does not end with a line feed is its lines joined. -/
theorem joinWith_lines {s : List Char} (noReturn : '\r' ∉ s) (unended : s.getLast? ≠ some '\n') :
    joinWith ['\n'] (lines s) = s :=
  joinWith_linesFrom List.not_mem_nil noReturn unended

end IngestConsole.Text
