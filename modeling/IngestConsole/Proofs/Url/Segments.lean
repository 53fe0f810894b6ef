import IngestConsole.Proofs.Url.PercentRoundTrip
import IngestConsole.Url.Path
import Mathlib

/-!
# Segments that are appended to a path

A text that is appended to a path as one segment becomes that segment, percent-encoded, except in
three cases.  A single and a double dot add nothing.  The characters that lay out a text are lost,
and a text that becomes a double dot without them takes back the segment before it; one that becomes
a single dot adds an empty segment.
-/

set_option autoImplicit false

namespace IngestConsole.Url

open Numeral Text

variable {special isFile : Bool}

/-! ## Dots -/

/-- Only a capital letter changes when letters become small. -/
theorem toNat_toLower (c : Char) : c.toLower.toNat = c.toNat ∨
    (c.toLower.toNat = c.toNat + 32 ∧ 65 ≤ c.toNat ∧ c.toNat ≤ 90) := by
  unfold Char.toLower
  split
  · next capital =>
    right
    simp only [Char.toNat, UInt32.le_iff_toNat_le, ge_iff_le] at capital ⊢
    simp at capital ⊢
    omega
  · exact .inl rfl

/-- A character that became one that is no letter did not change. -/
theorem eq_of_toLower_eq {c d : Char} (h : c.toLower = d)
    (symbol : d.toNat < 97 ∨ 122 < d.toNat) : c = d := by
  subst h
  rcases toNat_toLower c with same | ⟨moved, low, high⟩
  · exact (Char.toNat_inj.1 same).symm
  · omega

/-- The letter E of either case is the digit fourteen. -/
theorem hexValue?_of_toLower_eq {c : Char} (h : c.toLower = 'e') : hexValue? c = some 14 := by
  rcases toNat_toLower c with same | ⟨moved, -, -⟩
  · have small : c = 'e' := (Char.toNat_inj.1 same).symm.trans h
    rw [small]
    rfl
  · have capital : c = 'E' := by
      rw [h] at moved
      refine Char.toNat_inj.1 ?_
      simp at moved ⊢
      omega
    rw [capital]
    rfl

/-- The characters of a spelling of a dot that is written out. -/
theorem dot_of_map_toLower {x rest : List Char} (h : x.map Char.toLower = '.' :: rest) :
    ∃ y, x = '.' :: y ∧ y.map Char.toLower = rest := by
  obtain ⟨c, y, rfl, dot, tail⟩ := List.map_eq_cons_iff.1 h
  exact ⟨y, by rw [eq_of_toLower_eq dot (by decide)], tail⟩

/-- The characters of a spelling of a dot that is encoded. -/
theorem encodedDot_of_map_toLower {x rest : List Char}
    (h : x.map Char.toLower = '%' :: '2' :: 'e' :: rest) :
    ∃ c y, x = '%' :: '2' :: c :: y ∧ hexValue? c = some 14 ∧ y.map Char.toLower = rest := by
  obtain ⟨a, x₁, rfl, percent, h₁⟩ := List.map_eq_cons_iff.1 h
  obtain ⟨b, x₂, rfl, two, h₂⟩ := List.map_eq_cons_iff.1 h₁
  obtain ⟨c, y, rfl, letter, tail⟩ := List.map_eq_cons_iff.1 h₂
  refine ⟨c, y, ?_, hexValue?_of_toLower_eq letter, tail⟩
  rw [eq_of_toLower_eq percent (by decide), eq_of_toLower_eq two (by decide)]

/-- A dot is decoded as itself. -/
theorem percentDecode_dot (y : List Char) : percentDecode ('.' :: y) = 0x2e :: percentDecode y := by
  rw [percentDecode_cons (by decide)]
  rfl

/-- An encoded dot is decoded as a dot, in either case of its digit. -/
theorem percentDecode_encodedDot {c : Char} (h : hexValue? c = some 14) (y : List Char) :
    percentDecode ('%' :: '2' :: c :: y) = 0x2e :: percentDecode y := by
  have two : hexValue? '2' = some 2 := rfl
  simp only [percentDecode, two, h]
  rfl

/-- Every spelling of the single dot decodes to a dot. -/
theorem percentDecode_of_isSingleDot {x : List Char} (h : isSingleDot x = true) :
    percentDecode x = utf8 ['.'] := by
  simp only [isSingleDot, Bool.or_eq_true, beq_iff_eq] at h
  rcases h with plain | encoded
  · obtain ⟨y, rfl, nil⟩ := dot_of_map_toLower plain
    rw [List.map_eq_nil_iff.1 nil]
    rfl
  · obtain ⟨c, y, rfl, digit, nil⟩ := encodedDot_of_map_toLower encoded
    rw [percentDecode_encodedDot digit, List.map_eq_nil_iff.1 nil]
    rfl

/-- All spellings of two dots are decoded as two dots. -/
theorem percentDecode_of_isDoubleDot {x : List Char} (h : isDoubleDot x = true) :
    percentDecode x = utf8 ['.', '.'] := by
  simp only [isDoubleDot, Bool.or_eq_true, beq_iff_eq] at h
  rcases h with ((plain | first) | second) | encoded
  · obtain ⟨y, rfl, rest⟩ := dot_of_map_toLower plain
    obtain ⟨z, rfl, nil⟩ := dot_of_map_toLower rest
    rw [List.map_eq_nil_iff.1 nil]
    rfl
  · obtain ⟨c, y, rfl, digit, rest⟩ := encodedDot_of_map_toLower first
    obtain ⟨z, rfl, nil⟩ := dot_of_map_toLower rest
    rw [percentDecode_encodedDot digit, List.map_eq_nil_iff.1 nil]
    rfl
  · obtain ⟨y, rfl, rest⟩ := dot_of_map_toLower second
    obtain ⟨c, z, rfl, digit, nil⟩ := encodedDot_of_map_toLower rest
    rw [percentDecode_dot, percentDecode_encodedDot digit, List.map_eq_nil_iff.1 nil]
    rfl
  · obtain ⟨c, y, rfl, digit, rest⟩ := encodedDot_of_map_toLower encoded
    obtain ⟨d, z, rfl, digit', nil⟩ := encodedDot_of_map_toLower rest
    rw [percentDecode_encodedDot digit, percentDecode_encodedDot digit', List.map_eq_nil_iff.1 nil]
    rfl

/-- The percent sign is encoded in a segment, so no text looks encoded that is not. -/
theorem percent_mem_segmentSet (special : Bool) : inSegmentSet special '%' = true := by
  cases special <;> rfl

/-- A text is encoded to a single dot only if it is one. -/
theorem isSingleDot_percentEncode_iff {s : List Char} :
    isSingleDot (percentEncode (inSegmentSet special) s) = true ↔ s = ['.'] := by
  constructor
  · intro dot
    have bytes := percentDecode_of_isSingleDot dot
    rw [percentDecode_percentEncode (percent_mem_segmentSet special)] at bytes
    exact utf8_injective bytes
  · rintro rfl
    cases special <;> decide

/-- Once encoded, only the name of two dots is two dots. -/
theorem isDoubleDot_percentEncode_iff {s : List Char} :
    isDoubleDot (percentEncode (inSegmentSet special) s) = true ↔ s = ['.', '.'] := by
  constructor
  · intro dots
    have bytes := percentDecode_of_isDoubleDot dots
    rw [percentDecode_percentEncode (percent_mem_segmentSet special)] at bytes
    exact utf8_injective bytes
  · rintro rfl
    cases special <;> decide

/-! ## The last segment -/

/-- A segment without slashes has none when it is read from its end. -/
theorem forall_mem_reverse_ne_slash {seg : List Char} (whole : '/' ∉ seg) :
    ∀ c ∈ seg.reverse, decide (c ≠ '/') = true := by
  intro c hc
  refine decide_eq_true ?_
  rintro rfl
  exact whole (List.mem_reverse.1 hc)

/-- What stands after the last slash is the last segment. -/
theorem lastSegment_append {p seg : List Char} (whole : '/' ∉ seg) :
    lastSegment (p ++ '/' :: seg) = seg := by
  rw [lastSegment, List.reverse_append, List.reverse_cons, List.append_assoc,
    List.takeWhile_append_of_pos (forall_mem_reverse_ne_slash whole)]
  simp

/-- Through the last slash is all but the last segment. -/
theorem throughLastSlash_append {p seg : List Char} (whole : '/' ∉ seg) :
    throughLastSlash (p ++ '/' :: seg) = p ++ ['/'] := by
  rw [throughLastSlash, List.reverse_append, List.reverse_cons, List.append_assoc,
    List.dropWhile_append_of_pos (forall_mem_reverse_ne_slash whole)]
  simp

/-- A path with a slash behind it ends with one. -/
theorem endsWithSlash_append (p : List Char) : endsWithSlash (p ++ ['/']) = true := by
  simp [endsWithSlash]

/-- Going back takes away the last segment, if it is no drive letter. -/
theorem takeBack_append {p seg : List Char} (whole : '/' ∉ seg)
    (drive : isDriveLetter seg = false) :
    takeBack isFile (p ++ '/' :: seg ++ ['/']) = p ++ ['/'] := by
  have may_go : lastSlashCanGo (p ++ '/' :: seg ++ ['/']) = true := by
    rw [lastSlashCanGo, List.dropLast_concat, lastSegment_append whole, drive]
    simp
  have normal : isNormalDriveLetter seg = false := by
    rw [isNormalDriveLetter, drive, Bool.false_and]
  rw [takeBack, endsWithSlash_append, may_go, Bool.true_and, if_pos rfl, List.dropLast_concat,
    popSegment, lastSegment_append whole, normal, Bool.and_false, if_neg Bool.false_ne_true,
    throughLastSlash_append whole]

/-! ## Words -/

/-- A text of letters and digits, which is a segment as it stands. -/
def isWord (s : List Char) : Bool :=
  !s.isEmpty && s.all Char.isAlphanum

section Word

variable {w : List Char}

/-- A word is not empty. -/
theorem ne_nil_of_isWord (h : isWord w = true) : w ≠ [] := by
  rintro rfl
  exact Bool.false_ne_true h

/-- A word is made of letters and digits. -/
theorem isAlphanum_of_mem_word (h : isWord w = true) {c : Char} (hc : c ∈ w) :
    c.isAlphanum = true :=
  List.all_eq_true.1 (Bool.and_eq_true_iff.1 h).2 c hc

/-- A letter or digit is no symbol. -/
theorem ne_of_isAlphanum {c d : Char} (h : c.isAlphanum = true) (symbol : d.isAlphanum = false) :
    c ≠ d := by
  rintro rfl
  exact Bool.false_ne_true (symbol.symm.trans h)

/-- A character that is neither a letter nor a digit stands in no word. -/
theorem not_mem_word (h : isWord w = true) {c : Char} (symbol : c.isAlphanum = false) : c ∉ w :=
  fun hc => ne_of_isAlphanum (isAlphanum_of_mem_word h hc) symbol rfl

/-- Letters and digits are in ASCII. -/
theorem toNat_lt_of_isAlphanum {c : Char} (h : c.isAlphanum = true) : c.toNat < 128 := by
  simp [Char.isAlphanum, Char.isAlpha, Char.isUpper, Char.isLower, Char.isDigit,
    UInt32.le_iff_toNat_le] at h
  omega

/-- Letters and digits are not encoded. -/
theorem inSegmentSet_of_isAlphanum {c : Char} (h : c.isAlphanum = true) :
    inSegmentSet special c = false := by
  have ascii : ∀ n < 128, (Char.ofNat n).isAlphanum = true →
      inSegmentSet special (Char.ofNat n) = false := by
    cases special <;> decide
  have at_c := ascii c.toNat (toNat_lt_of_isAlphanum h)
  rw [Char.ofNat_toNat] at at_c
  exact at_c h

/-- A word is no drive letter. -/
theorem isDriveLetter_word (h : isWord w = true) : isDriveLetter w = false := by
  unfold isDriveLetter
  split
  · next c d =>
    have letter : d.isAlphanum = true := isAlphanum_of_mem_word h (by simp)
    have ne : ∀ x : Char, x.isAlphanum = false → d ≠ x := fun x => ne_of_isAlphanum letter
    simp [ne ':' rfl, ne '|' rfl]
  · rfl

/-- Nothing is dropped from a word. -/
theorem dropLayout_word (h : isWord w = true) : dropLayout w = w := by
  refine List.filter_eq_self.2 ?_
  intro c hc
  have letter := isAlphanum_of_mem_word h hc
  have ne : ∀ d : Char, d.isAlphanum = false → c ≠ d := fun d => ne_of_isAlphanum letter
  simp [isLayout, ne '\t' rfl, ne '\n' rfl, ne '\r' rfl]

/-- A word is encoded as itself. -/
theorem percentEncode_word (h : isWord w = true) :
    percentEncode (inSegmentSet special) w = w := by
  have each : ∀ c ∈ w, (if c.toNat < 128 && !inSegmentSet special c then [c]
      else (String.utf8EncodeChar c).flatMap percentByte) = [c] := by
    intro c hc
    have letter := isAlphanum_of_mem_word h hc
    rw [inSegmentSet_of_isAlphanum letter, decide_eq_true (toNat_lt_of_isAlphanum letter)]
    rfl
  rw [percentEncode, List.flatMap_congr each, List.flatMap_singleton']

end Word

/-! ## Appending one segment -/

/-- Away from the root, a segment that is no dot is written as it stands. -/
theorem addSegment_of_ne {path segment : List Char} (long : path.length ≠ 1)
    (single : isSingleDot segment = false) (double : isDoubleDot segment = false) :
    addSegment isFile path segment false = path ++ segment := by
  have no_drive : (isFile && path.length == 1 && isDriveLetter segment) = false := by
    simp [long]
  simp [addSegment, single, double, no_drive]

/-- What appending a text as a segment comes to. -/
inductive Addition
  /-- The path stays as it is. -/
  | nothing
  /-- The segment before is gone. -/
  | takesBack
  /-- There is one more segment, which encodes the text. -/
  | segment (s : List Char)
  deriving DecidableEq, Repr

/-- What appending a text as a segment comes to: dots count before and after the characters are
dropped that lay out the text, but not in the same way. -/
def addition (s : List Char) : Addition :=
  if s = ['.'] ∨ s = ['.', '.'] then .nothing
  else if dropLayout s = ['.', '.'] then .takesBack
  else if dropLayout s = ['.'] then .segment []
  else .segment (dropLayout s)

/-- What stands at the end of a path, from the slash before its last segment `parent` on, after a
text was appended. -/
def Addition.below (special : Bool) (parent : List Char) : Addition → List Char
  | nothing => '/' :: parent
  | takesBack => ['/']
  | segment s => '/' :: parent ++ '/' :: percentEncode (inSegmentSet special) s

variable {p w : List Char}

/-- What a name adds below a path tells its kind by its length. -/
theorem Addition.length_below (a : Addition) : (a.below special w).length =
    match a with
    | nothing => w.length + 1
    | takesBack => 1
    | segment s => w.length + 2 + (percentEncode (inSegmentSet special) s).length := by
  cases a with
  | segment s =>
    simp only [Addition.below, List.length_append, List.length_cons]
    omega
  | _ => rfl

/-- What a text comes to can be read off the path. -/
theorem Addition.below_injective (ne : w ≠ []) :
    Function.Injective (Addition.below special w) := by
  have pos := List.length_pos_iff.2 ne
  intro a b same
  -- additions of different kinds write texts of different lengths
  have lengths := congrArg List.length same
  rw [length_below, length_below] at lengths
  cases a with
  | nothing =>
    cases b with
    | nothing => rfl
    | takesBack => simp only at lengths; omega
    | segment t => simp only at lengths; omega
  | takesBack =>
    cases b with
    | nothing => simp only at lengths; omega
    | takesBack => rfl
    | segment t => simp only at lengths; omega
  | segment s =>
    cases b with
    | nothing => simp only at lengths; omega
    | takesBack => simp only at lengths; omega
    | segment t =>
      have encoded := (List.cons.inj (List.append_cancel_left same)).2
      rw [percentEncode_injective (percent_mem_segmentSet special) encoded]

/-- Appending a text below a word. -/
theorem appendSegment_below (word : isWord w = true) (s : List Char) :
    appendSegment special isFile (p ++ '/' :: w) s = p ++ (addition s).below special w := by
  have long : ∀ tail : List Char, (p ++ '/' :: w ++ tail).length ≠ 1 := by
    have pos := List.length_pos_iff.2 (ne_nil_of_isWord word)
    intro tail
    simp only [List.length_append, List.length_cons]
    omega
  have away : (p ++ '/' :: w).length ≠ 1 := by simpa using long []
  -- dots are looked for twice: in the text as it is given, and in the segment that it encodes to
  by_cases skipped : s = ['.'] ∨ s = ['.', '.']
  · rw [appendSegment, addition, if_pos skipped, if_pos skipped]
    rfl
  rw [appendSegment, addition, if_neg skipped, if_neg skipped, if_neg away]
  by_cases double : dropLayout s = ['.', '.']
  · have dots : isDoubleDot (percentEncode (inSegmentSet special) (dropLayout s)) = true :=
      isDoubleDot_percentEncode_iff.2 double
    rw [if_pos double]
    simp only [addSegment, dots, if_true, Bool.false_eq_true, if_false]
    exact takeBack_append (not_mem_word word rfl) (isDriveLetter_word word)
  rw [if_neg double]
  have not_double : isDoubleDot (percentEncode (inSegmentSet special) (dropLayout s)) = false :=
    Bool.eq_false_iff.2 fun dots => double (isDoubleDot_percentEncode_iff.1 dots)
  by_cases single : dropLayout s = ['.']
  · have dot : isSingleDot (percentEncode (inSegmentSet special) (dropLayout s)) = true :=
      isSingleDot_percentEncode_iff.2 single
    rw [if_pos single]
    simp only [addSegment, not_double, dot, if_true, Bool.false_eq_true, if_false, withSlash,
      endsWithSlash_append]
    simp [Addition.below, percentEncode]
  · have not_single : isSingleDot (percentEncode (inSegmentSet special) (dropLayout s)) = false :=
      Bool.eq_false_iff.2 fun dot => single (isSingleDot_percentEncode_iff.1 dot)
    rw [if_neg single, addSegment_of_ne (long ['/']) not_single not_double]
    simp [Addition.below]

/-- A text that is one segment of a path, whoever reads it: nothing in it ends a segment or the
path, and it is no dot. -/
structure IsSegment (special : Bool) (s : List Char) : Prop where
  whole : ∀ c ∈ s, separates special c = false ∧ c ≠ '?' ∧ c ≠ '#'
  no_dot : isSingleDot s = false ∧ isDoubleDot s = false

/-- Every text but the dots is encoded as one segment. -/
theorem isSegment_percentEncode {s : List Char} (single : s ≠ ['.']) (double : s ≠ ['.', '.']) :
    IsSegment special (percentEncode (inSegmentSet special) s) := by
  refine ⟨?_, ?_, ?_⟩
  · intro c hc
    have allowed : ∀ d, d.isAlphanum = false → d ≠ '%' → inSegmentSet special d = true → c ≠ d := by
      rintro d symbol ne encoded rfl
      exact Bool.noConfusion (encoded.symm.trans (not_mem_set_of_mem_percentEncode hc ne symbol))
    have slash : c ≠ '/' := allowed '/' rfl (by decide) (by cases special <;> rfl)
    have backslash : special = true → c ≠ '\\' := by
      rintro rfl
      exact allowed '\\' rfl (by decide) rfl
    refine ⟨?_, ?_, ?_⟩
    · simpa [separates, slash] using backslash
    · exact allowed '?' rfl (by decide) (by cases special <;> rfl)
    · exact allowed '#' rfl (by decide) (by cases special <;> rfl)
  · exact Bool.eq_false_iff.2 fun dot => single (isSingleDot_percentEncode_iff.1 dot)
  · exact Bool.eq_false_iff.2 fun dots => double (isDoubleDot_percentEncode_iff.1 dots)

/-- Only a dot, two dots, and two dots among characters that lay out a text, add no segment. -/
theorem addition_eq_segment_iff {s : List Char} :
    (∃ t, addition s = .segment t) ↔ s ≠ ['.'] ∧ dropLayout s ≠ ['.', '.'] := by
  have dots : dropLayout ['.', '.'] = ['.', '.'] := rfl
  unfold addition
  constructor
  · rintro ⟨t, eq⟩
    split at eq
    · cases eq
    · next skipped =>
      split at eq
      · cases eq
      · next double => exact ⟨fun single => skipped (.inl single), double⟩
  · rintro ⟨single, double⟩
    have no_skip : ¬(s = ['.'] ∨ s = ['.', '.']) := by
      rintro (rfl | rfl)
      · exact single rfl
      · exact double dots
    rw [if_neg no_skip, if_neg double]
    split
    · exact ⟨[], rfl⟩
    · exact ⟨_, rfl⟩

/-- What is added as a segment is one once encoded. -/
theorem isSegment_of_addition {s t : List Char} (h : addition s = .segment t) :
    IsSegment special (percentEncode (inSegmentSet special) t) := by
  unfold addition at h
  split at h
  · cases h
  · split at h
    · cases h
    · next double =>
      split at h
      · cases h
        exact isSegment_percentEncode (by decide) (by decide)
      · next single =>
        cases h
        exact isSegment_percentEncode single double

/-- A text without characters that lay out a text, other than the dots, adds itself. -/
theorem addition_of_dropLayout_eq {s : List Char} (plain : dropLayout s = s) (single : s ≠ ['.'])
    (double : s ≠ ['.', '.']) : addition s = .segment s := by
  have no_skip : ¬(s = ['.'] ∨ s = ['.', '.']) := fun h => h.elim single double
  rw [addition, if_neg no_skip, plain, if_neg double, if_neg single]

/-- A word is neither one dot nor two. -/
theorem word_ne_dots (word : isWord w = true) : w ≠ ['.'] ∧ w ≠ ['.', '.'] := by
  constructor
  all_goals
    rintro rfl
    exact not_mem_word word (show Char.isAlphanum '.' = false from rfl) (by simp)

/-- What appending a word to a path writes: the word, after a slash if the path is not the root. -/
theorem appendSegment_word_eq (word : isWord w = true) (path : List Char) :
    appendSegment special isFile path w =
      addSegment isFile (if path.length = 1 then path else path ++ ['/']) w false := by
  obtain ⟨ne_dot, ne_dots⟩ := word_ne_dots word
  have no_skip : ¬(w = ['.'] ∨ w = ['.', '.']) := fun h => h.elim ne_dot ne_dots
  rw [appendSegment, if_neg no_skip, dropLayout_word word, percentEncode_word word]

/-- A last word is added behind the path. -/
theorem addSegment_word (word : isWord w = true) (path : List Char) :
    addSegment isFile path w false = path ++ w := by
  obtain ⟨ne_dot, ne_dots⟩ := word_ne_dots word
  have single : isSingleDot (percentEncode (inSegmentSet true) w) = false :=
    Bool.eq_false_iff.2 fun dot => ne_dot (isSingleDot_percentEncode_iff.1 dot)
  have double : isDoubleDot (percentEncode (inSegmentSet true) w) = false :=
    Bool.eq_false_iff.2 fun dots => ne_dots (isDoubleDot_percentEncode_iff.1 dots)
  rw [percentEncode_word word] at single double
  simp [addSegment, single, double, isDriveLetter_word word]

/-- Away from the root, a word follows a slash. -/
theorem appendSegment_word {path : List Char} (long : path.length ≠ 1) (word : isWord w = true) :
    appendSegment special isFile path w = path ++ '/' :: w := by
  rw [appendSegment_word_eq word, if_neg long, addSegment_word word, List.append_assoc,
    List.singleton_append]

/-- Below the root a word needs no further slash. -/
theorem appendSegment_root (word : isWord w = true) :
    appendSegment special isFile ['/'] w = '/' :: w := by
  rw [appendSegment_word_eq word, if_pos List.length_singleton, addSegment_word word,
    List.singleton_append]

end IngestConsole.Url
