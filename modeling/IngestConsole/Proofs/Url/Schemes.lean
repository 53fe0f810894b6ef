import IngestConsole.Url.Parser

/-!
# Schemes and segments

A URL that was read has segments if its scheme is a special one, or if a slash stands behind the
colon of its scheme; in every other case its path is opaque.  So a scheme that is special is enough
for a base URL, whatever else stands in the text.
-/

set_option autoImplicit false

namespace IngestConsole.Url

/-- An address with a host has its scheme and a path of segments. -/
theorem readAfterSlashes_segments {scheme s : List Char} {u : Url}
    (h : readAfterSlashes scheme s = .ok u) : u.scheme = scheme ∧ u.isOpaque = false := by
  unfold readAfterSlashes at h
  dsimp only [bind, Except.bind] at h
  split at h
  · cases h
  · cases h
    exact ⟨rfl, rfl⟩

/-- The address of a file has its scheme and a path of segments. -/
theorem readFile_segments {scheme s : List Char} {u : Url} (h : readFile scheme s = .ok u) :
    u.scheme = scheme ∧ u.isOpaque = false := by
  unfold readFile at h
  split at h
  · split at h
    · dsimp only [bind, Except.bind] at h
      split at h
      · cases h
        exact ⟨rfl, rfl⟩
      · split at h
        · cases h
        · cases h
          exact ⟨rfl, rfl⟩
    · cases h
      exact ⟨rfl, rfl⟩
  · cases h
    exact ⟨rfl, rfl⟩

/-- The address of another scheme is opaque unless a slash follows the scheme. -/
theorem readPlain_isOpaque {scheme s : List Char} {u : Url} (h : readPlain scheme s = .ok u) :
    u.scheme = scheme ∧ (u.isOpaque = true ↔ s.head? ≠ some '/') := by
  unfold readPlain at h
  split at h
  · obtain ⟨same, segments⟩ := readAfterSlashes_segments h
    exact ⟨same, by simp [segments]⟩
  · cases h
    exact ⟨rfl, by simp [assemble]⟩
  · next noSlash =>
    cases h
    refine ⟨rfl, iff_of_true rfl fun slash => ?_⟩
    cases s with
    | nil => cases slash
    | cons c rest =>
      obtain rfl : c = '/' := Option.some.inj slash
      exact noSlash rest rfl

/-- The scheme of files is special. -/
theorem isSpecial_of_isFile {scheme : List Char} (file : isFile scheme = true) :
    isSpecial scheme = true := by
  obtain rfl : "file".toList = scheme := beq_iff_eq.1 file
  rfl

/-- The scheme of a URL and what stands behind its colon settle whether the path is opaque. -/
theorem isOpaque_iff_of_parse {s : List Char} {u : Url} (h : parse s = .ok u) :
    ∃ rest, readScheme? (dropLayout (stripControls s)) = some (u.scheme, rest) ∧
      (u.isOpaque = true ↔ isSpecial u.scheme = false ∧ rest.head? ≠ some '/') := by
  unfold parse at h
  split at h
  · cases h
  · next scheme rest read =>
    refine ⟨rest, ?_⟩
    split at h
    · next file =>
      obtain ⟨same, segments⟩ := readFile_segments h
      rw [same, segments]
      exact ⟨read, by simp [isSpecial_of_isFile file]⟩
    · split at h
      · next special =>
        obtain ⟨same, segments⟩ := readAfterSlashes_segments h
        rw [same, segments]
        exact ⟨read, by simp [special]⟩
      · next plain =>
        obtain ⟨same, unslashed⟩ := readPlain_isOpaque h
        rw [same, unslashed]
        exact ⟨read, by simp [plain]⟩

/-- A URL of a special scheme has segments, whatever its text is. -/
theorem segments_of_isSpecial {s : List Char} {u : Url} (h : parse s = .ok u)
    (special : isSpecial u.scheme = true) : u.isOpaque = false := by
  obtain ⟨rest, -, settled⟩ := isOpaque_iff_of_parse h
  refine Bool.eq_false_iff.2 fun isOpaque => ?_
  rw [(settled.1 isOpaque).1] at special
  cases special

end IngestConsole.Url
