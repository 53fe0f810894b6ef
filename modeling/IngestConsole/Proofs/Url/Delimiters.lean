import IngestConsole.Proofs.Url.BasePath

/-!
# Delimiters of a path

The path of a URL that was read holds no character that ends a path.  A server that cuts a target at
its question mark and its number sign gets the path and the query that were put together.
-/

set_option autoImplicit false

namespace IngestConsole.Url

variable {isFile : Bool} {path : List Char}

/-- Nothing in a path ends it. -/
def NoDelimiter (path : List Char) : Prop :=
  ∀ c ∈ path, c ≠ '?' ∧ c ≠ '#'

/-- The empty path has no delimiter. -/
theorem noDelimiter_nil : NoDelimiter [] :=
  List.forall_mem_nil _

/-- Paths without delimiters, in sequence, have none. -/
theorem NoDelimiter.append {rest : List Char} (h : NoDelimiter path) (h' : NoDelimiter rest) :
    NoDelimiter (path ++ rest) := by
  intro c hc
  rcases List.mem_append.1 hc with first | second
  · exact h c first
  · exact h' c second

/-- A character that is no delimiter may be put in front. -/
theorem NoDelimiter.cons {c : Char} (here : c ≠ '?' ∧ c ≠ '#') (h : NoDelimiter path) :
    NoDelimiter (c :: path) :=
  List.forall_mem_cons.2 ⟨here, h⟩

/-- A path of characters from one without delimiters has none. -/
theorem NoDelimiter.of_subset {rest : List Char} (h : NoDelimiter path)
    (sub : rest ⊆ path) : NoDelimiter rest :=
  fun c hc => h c (sub hc)

/-- A slash is no delimiter. -/
theorem noDelimiter_slash : NoDelimiter ['/'] :=
  .cons (by decide) noDelimiter_nil

/-- A word has no delimiter. -/
theorem noDelimiter_of_isWord {w : List Char} (word : isWord w = true) : NoDelimiter w := by
  intro c hc
  have letter := isAlphanum_of_mem_word word hc
  exact ⟨ne_of_isAlphanum letter rfl, ne_of_isAlphanum letter rfl⟩

/-! ## Reading a path -/

/-- An encoded segment has no delimiter. -/
theorem noDelimiter_percentEncode (segment : List Char) :
    NoDelimiter (percentEncode inPathSet segment) := by
  intro c hc
  have allowed : ∀ d, d.isAlphanum = false → d ≠ '%' → inPathSet d = true → c ≠ d := by
    rintro d symbol ne encoded rfl
    exact Bool.noConfusion (encoded.symm.trans (not_mem_set_of_mem_percentEncode hc ne symbol))
  exact ⟨allowed '?' rfl (by decide) rfl, allowed '#' rfl (by decide) rfl⟩

/-- Taking a segment back leaves a part of the path. -/
theorem takeBack_subset : takeBack isFile path ⊆ path := by
  have popped : ∀ p, popSegment isFile p ⊆ p := by
    intro p
    unfold popSegment
    split
    · exact List.Subset.refl p
    · exact (List.rdropWhile_prefix _ p).subset
  unfold takeBack
  split
  · exact List.Subset.trans (popped _) (List.dropLast_subset path)
  · exact popped path

/-- Adding a slash adds no delimiter. -/
theorem NoDelimiter.withSlash (h : NoDelimiter path) : NoDelimiter (withSlash path) := by
  unfold Url.withSlash
  split
  · exact h
  · exact h.append noDelimiter_slash

/-- A segment without delimiters brings none into a path. -/
theorem NoDelimiter.addSegment {segment : List Char} (h : NoDelimiter path)
    (plain : NoDelimiter segment) (more : Bool) :
    NoDelimiter (addSegment isFile path segment more) := by
  have back : NoDelimiter (takeBack isFile path) := h.of_subset takeBack_subset
  have drive : NoDelimiter (segment.take 1 ++ [':']) :=
    (plain.of_subset (List.take_subset 1 segment)).append (.cons (by decide) noDelimiter_nil)
  unfold Url.addSegment
  dsimp only
  split
  · split
    · exact back.withSlash
    · exact back
  · split
    · exact h.withSlash
    · refine (h.append ?_).append ?_
      · split
        · exact drive
        · exact plain
      · split
        · exact noDelimiter_slash
        · exact noDelimiter_nil

/-- The path of an address that was read has no delimiter. -/
theorem noDelimiter_of_parse {s : List Char} {u : Url} (h : parse s = .ok u)
    (segments : u.isOpaque = false) : NoDelimiter u.path := by
  have kept := parse_keeps noDelimiter_slash
    (fun _ _ segment more plain => plain.addSegment (noDelimiter_percentEncode segment) more)
    (fun _ plain => .cons (by decide) (plain.of_subset (List.dropWhile_suffix _).subset)) h segments
  rcases kept with nil | plain
  · rw [nil]
    exact noDelimiter_nil
  · exact plain

/-! ## Cutting a target -/

/-- A path without delimiters has neither query nor fragment behind it. -/
theorem splitTail_of_noDelimiter (h : NoDelimiter path) : splitTail path = ⟨path, none, none⟩ := by
  have number : ∀ c ∈ path, decide (c ≠ '#') = true := fun c hc => decide_eq_true (h c hc).2
  have question : ∀ c ∈ path, decide (c ≠ '?') = true := fun c hc => decide_eq_true (h c hc).1
  simp only [splitTail, List.takeWhile_eq_self_iff.2 number, List.takeWhile_eq_self_iff.2 question,
    List.dropWhile_eq_nil_iff.2 number, List.dropWhile_eq_nil_iff.2 question]

/-- A query behind a path without delimiters is split off. -/
theorem splitTail_append {query : List Char} (h : NoDelimiter path) (plain : '#' ∉ query) :
    splitTail (path ++ '?' :: query) = ⟨path, some query, none⟩ := by
  have number : ∀ c ∈ path ++ '?' :: query, decide (c ≠ '#') = true := by
    intro c hc
    refine decide_eq_true ?_
    rcases List.mem_append.1 hc with first | second
    · exact (h c first).2
    · rcases List.mem_cons.1 second with rfl | later
      · decide
      · rintro rfl
        exact plain later
  have question : ∀ c ∈ path, decide (c ≠ '?') = true := fun c hc => decide_eq_true (h c hc).1
  simp only [splitTail, List.takeWhile_eq_self_iff.2 number, List.dropWhile_eq_nil_iff.2 number,
    List.takeWhile_append_of_pos question, List.dropWhile_append_of_pos question]
  simp

end IngestConsole.Url
