import IngestConsole.Proofs.Url.Segments
import IngestConsole.Url.Parser
import Mathlib.Data.List.DropRight

/-!
# The path of a base URL

The path of a URL that was read is empty or starts with a slash, whatever dots, drive letters and
slashes its text has.  What is appended to such a path follows the path without the slash at its
end; only a path of two slashes loses both.
-/

set_option autoImplicit false

namespace IngestConsole.Url

variable {special isFile : Bool} {path : List Char}

/-! ## Paths that were read -/

/-- The path starts with a slash. -/
def StartsWithSlash (path : List Char) : Prop :=
  path.head? = some '/'

/-- A start of a path that starts with a slash starts with that slash, if there is anything
of it. -/
theorem StartsWithSlash.of_isPrefix {shorter : List Char} (h : StartsWithSlash path)
    (start : shorter <+: path) (ne : shorter ≠ []) : StartsWithSlash shorter := by
  obtain ⟨rest, rfl⟩ := start
  rwa [StartsWithSlash, List.head?_append_of_ne_nil _ ne] at h

/-- What is added behind does not change that a path starts with a slash. -/
theorem StartsWithSlash.append (h : StartsWithSlash path) (rest : List Char) :
    StartsWithSlash (path ++ rest) := by
  rw [StartsWithSlash] at *
  rw [List.head?_append, h, Option.some_or]

/-- A path that starts with a slash has one. -/
theorem StartsWithSlash.mem (h : StartsWithSlash path) : '/' ∈ path :=
  List.mem_of_head? h

/-- Cutting a path after its last slash keeps its first slash. -/
theorem StartsWithSlash.throughLastSlash (h : StartsWithSlash path) :
    StartsWithSlash (throughLastSlash path) := by
  refine h.of_isPrefix (List.rdropWhile_prefix _ path) ?_
  intro nil
  have none_left := (List.rdropWhile_eq_nil_iff (p := (· ≠ '/'))).1 nil '/' h.mem
  simp at none_left

/-- Taking a segment back leaves the first slash. -/
theorem StartsWithSlash.takeBack (h : StartsWithSlash path) :
    StartsWithSlash (takeBack isFile path) := by
  have popped : ∀ p, StartsWithSlash p → StartsWithSlash (popSegment isFile p) := by
    intro p hp
    unfold popSegment
    split
    · exact hp
    · exact hp.throughLastSlash
  unfold Url.takeBack
  split
  · next may_go =>
    refine popped _ (h.of_isPrefix (List.dropLast_prefix path) ?_)
    intro nil
    simp [lastSlashCanGo, nil] at may_go
  · exact popped _ h

/-- Adding a slash leaves the first one. -/
theorem StartsWithSlash.withSlash (h : StartsWithSlash path) :
    StartsWithSlash (withSlash path) := by
  unfold Url.withSlash
  split
  · exact h
  · exact h.append _

/-- Reading one more segment keeps the first slash. -/
theorem StartsWithSlash.addSegment (h : StartsWithSlash path) (segment : List Char) (more : Bool) :
    StartsWithSlash (addSegment isFile path segment more) := by
  unfold Url.addSegment
  split
  · split
    · exact h.takeBack.withSlash
    · exact h.takeBack
  · split
    · exact h.withSlash
    · rw [List.append_assoc]
      exact h.append _

section Reading

variable {holds : List Char → Prop} (root : holds ['/'])
  (add : ∀ isFile path segment more, holds path →
    holds (addSegment isFile path (percentEncode inPathSet segment) more))
  (one : ∀ path, holds path → holds (oneSlash path))

include add

/-- What every segment keeps is kept by reading segments. -/
theorem readSegments_keeps (h : holds path) (segment input : List Char) :
    holds (readSegments special isFile path segment input) := by
  induction input generalizing path segment with
  | nil => exact add _ _ _ _ h
  | cons c rest ih =>
    unfold readSegments
    split
    · exact ih (add _ _ _ _ h) _
    · exact ih h _

include root one

/-- What holds of a slash, and is kept by every step, holds of a path that is read. -/
theorem readPath_keeps (input : List Char) : holds (readPath special isFile ['/'] input) := by
  unfold readPath
  split
  · exact one _ (readSegments_keeps add root _ _)
  · exact readSegments_keeps add root _ _

/-- After an authority a path keeps what holds of the root, or is empty. -/
theorem pathAfterHost_keeps (special isFile : Bool) (s : List Char) :
    pathAfterHost special isFile s = [] ∨ holds (pathAfterHost special isFile s) := by
  unfold pathAfterHost
  split
  · split
    · exact .inr root
    · exact .inl rfl
  · split
    · exact .inr (readPath_keeps root add one _)
    · exact .inr (readPath_keeps root add one _)

/-- The path of a file always has a slash. -/
theorem filePath_keeps (s : List Char) : holds (oneSlash (pathAfterHost true true s)) := by
  rcases pathAfterHost_keeps root add one true true s with nil | kept
  · rw [nil]
    exact root
  · exact one _ kept

/-- What is kept by every step holds of a path behind a host, if there is one. -/
theorem readAfterSlashes_keeps {scheme s : List Char} {u : Url}
    (h : readAfterSlashes scheme s = .ok u) : u.path = [] ∨ holds u.path := by
  unfold readAfterSlashes at h
  dsimp only [bind, Except.bind] at h
  split at h
  · cases h
  · cases h
    exact pathAfterHost_keeps root add one _ _ _

/-- What is kept by every step holds of the path of a file. -/
theorem readFile_keeps {scheme s : List Char} {u : Url} (h : readFile scheme s = .ok u) :
    holds u.path := by
  unfold readFile at h
  split at h
  · split at h
    · dsimp only [bind, Except.bind] at h
      split at h
      · cases h
        show holds (readPath true true ['/'] _)
        exact readPath_keeps root add one _
      · split at h
        · cases h
        · cases h
          exact filePath_keeps root add one _
    · cases h
      exact filePath_keeps root add one _
  · cases h
    exact filePath_keeps root add one _

/-- What is kept by every step holds of the path of another scheme, if there is one. -/
theorem readPlain_keeps {scheme s : List Char} {u : Url} (h : readPlain scheme s = .ok u)
    (segments : u.isOpaque = false) : u.path = [] ∨ holds u.path := by
  unfold readPlain at h
  split at h
  · exact readAfterSlashes_keeps root add one h
  · cases h
    right
    show holds (readPath false false ['/'] _)
    exact readPath_keeps root add one _
  · cases h
    cases segments

/-- The path of a URL with segments that was read is empty or keeps what holds of the root and is
kept by every segment. -/
theorem parse_keeps {s : List Char} {u : Url} (h : parse s = .ok u)
    (segments : u.isOpaque = false) : u.path = [] ∨ holds u.path := by
  unfold parse at h
  split at h
  · cases h
  · split at h
    · exact .inr (readFile_keeps root add one h)
    · split at h
      · exact readAfterSlashes_keeps root add one h
      · exact readPlain_keeps root add one h segments

end Reading

/-- A URL below which a client can make calls: its path has segments, and is empty or starts with a
slash. -/
structure IsBase (u : Url) : Prop where
  segments : u.isOpaque = false
  rooted : u.path = [] ∨ StartsWithSlash u.path

/-- An address with segments is a base that paths can be added to. -/
theorem isBase_of_parse {s : List Char} {u : Url} (h : parse s = .ok u)
    (segments : u.isOpaque = false) : u.IsBase :=
  ⟨segments, parse_keeps (show StartsWithSlash ['/'] from rfl)
    (fun _ _ _ more slash => slash.addSegment _ more) (fun _ _ => rfl) h segments⟩

/-! ## What follows a base path -/

/-- A path without a slash at its end. -/
def stem (path : List Char) : List Char :=
  if endsWithSlash path then path.dropLast else path

/-- What stands before the segments that are appended to the path of a base URL: the path without
the slash at its end.  A path of two slashes leaves nothing. -/
def basePrefix (path : List Char) : List Char :=
  if path = ['/', '/'] then [] else stem path

/-- The prefix of a path is its stem unless the path is two slashes. -/
theorem basePrefix_eq_stem_iff : basePrefix path = stem path ↔ path ≠ ['/', '/'] := by
  constructor
  · rintro same rfl
    cases same
  · intro ne
    rw [basePrefix, if_neg ne]

/-- Dropping the empty segment of a longer path leaves its stem. -/
theorem dropEmptySegment_eq_stem (long : 1 < path.length) : dropEmptySegment path = stem path := by
  rw [dropEmptySegment, stem, decide_eq_true long, Bool.true_and]

/-- Only two slashes, of all paths beyond the root, are left as the root without the last slash. -/
theorem length_stem_ne_one (slash : StartsWithSlash path) (long : 1 < path.length)
    (ne : path ≠ ['/', '/']) : (stem path).length ≠ 1 := by
  unfold stem
  split
  · next at_end =>
    intro one
    have two : path.length = 2 := by
      rw [List.length_dropLast] at one
      omega
    obtain ⟨a, b, rfl⟩ := List.length_eq_two.1 two
    obtain rfl : a = '/' := Option.some.inj slash
    obtain rfl : b = '/' := by simpa [endsWithSlash] using at_end
    exact ne rfl
  · omega

/-- The first word that is appended to a base path follows a slash after its prefix. -/
theorem appendSegment_basePrefix {w : List Char} (rooted : path = [] ∨ StartsWithSlash path)
    (word : isWord w = true) :
    appendSegment special isFile (dropEmptySegment path) w = basePrefix path ++ '/' :: w := by
  rcases rooted with rfl | slash
  · exact appendSegment_word (by decide) word
  by_cases long : 1 < path.length
  · by_cases two : path = ['/', '/']
    · subst two
      exact appendSegment_root word
    · rw [basePrefix_eq_stem_iff.2 two, dropEmptySegment_eq_stem long,
        appendSegment_word (length_stem_ne_one slash long two) word]
  · obtain rfl : path = ['/'] := by
      cases path with
      | nil => cases slash
      | cons c rest =>
        obtain rfl : c = '/' := Option.some.inj slash
        simpa using long
    exact appendSegment_root word

/-- Words that are appended to a path follow it one after another, each after a slash. -/
theorem appendSegments_words (long : path.length ≠ 1) {ws : List (List Char)}
    (words : ∀ w ∈ ws, isWord w = true) :
    appendSegments special isFile path ws = path ++ ws.flatMap fun w => '/' :: w := by
  induction ws generalizing path with
  | nil => exact (List.append_nil path).symm
  | cons w rest ih =>
    obtain ⟨word, others⟩ := List.forall_mem_cons.1 words
    have longer : (path ++ '/' :: w).length ≠ 1 := by
      have pos := List.length_pos_iff.2 (ne_nil_of_isWord word)
      rw [List.length_append, List.length_cons]
      omega
    have later := ih longer others
    rw [appendSegments] at later ⊢
    rw [List.foldl_cons, appendSegment_word long word, later, List.flatMap_cons, List.append_assoc]

/-- Words are added behind the prefix of the base, each with a slash before it. -/
theorem appendSegments_basePrefix (rooted : path = [] ∨ StartsWithSlash path)
    {ws : List (List Char)} (ne : ws ≠ []) (words : ∀ w ∈ ws, isWord w = true) :
    appendSegments special isFile (dropEmptySegment path) ws =
      basePrefix path ++ ws.flatMap fun w => '/' :: w := by
  cases ws with
  | nil => exact absurd rfl ne
  | cons w rest =>
    obtain ⟨word, others⟩ := List.forall_mem_cons.1 words
    have longer : (basePrefix path ++ '/' :: w).length ≠ 1 := by
      have pos := List.length_pos_iff.2 (ne_nil_of_isWord word)
      rw [List.length_append, List.length_cons]
      omega
    have later : appendSegments special isFile _ rest = _ := appendSegments_words longer others
    rw [appendSegments] at later ⊢
    rw [List.foldl_cons, appendSegment_basePrefix rooted word, later, List.flatMap_cons,
      List.append_assoc]

end IngestConsole.Url
