import IngestConsole.Json.Literal
import IngestConsole.Numeral.Hexadecimal

/-!
# Tokens of JSON text

Text is cut into punctuation, words, string literals and number literals; blanks between tokens
are skipped.  Main statement: a token takes at least one character.
-/

set_option autoImplicit false

namespace IngestConsole.Json

open Numeral

/-- A token of JSON text. -/
inductive Token
  | openArray
  | closeArray
  | openObject
  | closeObject
  | comma
  | colon
  | null
  | bool (b : Bool)
  | string (pieces : List StringPiece)
  | number (l : NumberLiteral)
  deriving DecidableEq, Repr

/-- The four characters that may stand between tokens. -/
def isGap (c : Char) : Bool :=
  c = ' ' || c = '\n' || c = '\t' || c = '\r'

/-- The code unit that four hexadecimal digits write. -/
def codeUnit? (a b c d : Char) : Option Nat := do
  let a ← hexValue? a
  let b ← hexValue? b
  let c ← hexValue? c
  let d ← hexValue? d
  pure (((a * 16 + b) * 16 + c) * 16 + d)

/-- The character that a short escape writes. -/
def shortEscape? (c : Char) : Option Char :=
  if c = '"' then some '"'
  else if c = '\\' then some '\\'
  else if c = '/' then some '/'
  else if c = 'b' then some '\x08'
  else if c = 'f' then some '\x0c'
  else if c = 'n' then some '\n'
  else if c = 'r' then some '\r'
  else if c = 't' then some '\t'
  else none

/-- Reads a string literal after its opening quote, up to its closing quote. -/
def readString : List Char → Option (List StringPiece × List Char)
  | [] => none
  | '"' :: rest => some ([], rest)
  | '\\' :: 'u' :: a :: b :: c :: d :: rest => do
    let u ← codeUnit? a b c d
    let (pieces, rest) ← readString rest
    pure (.unit u :: pieces, rest)
  | '\\' :: c :: rest => do
    let c ← shortEscape? c
    let (pieces, rest) ← readString rest
    pure (.char c :: pieces, rest)
  | c :: rest =>
    if c.toNat < 0x20 ∨ c = '\\' then none
    else do
      let (pieces, rest) ← readString rest
      pure (.char c :: pieces, rest)

/-- The digits at the start of a text, and the rest. -/
def spanDigits (s : List Char) : List Char × List Char :=
  (s.takeWhile Char.isDigit, s.dropWhile Char.isDigit)

/-- Reads the digits before the point: a zero stands alone. -/
def readWhole : List Char → Option (List Char × List Char)
  | '0' :: rest => if rest.head?.any Char.isDigit then none else some (['0'], rest)
  | s =>
    match spanDigits s with
    | ([], _) => none
    | r => some r

/-- Reads a point and the digits after it, if a point follows. -/
def readFraction : List Char → Option (Option (List Char) × List Char)
  | '.' :: rest =>
    match spanDigits rest with
    | ([], _) => none
    | (ds, rest) => some (some ds, rest)
  | s => some (none, s)

/-- Reads the digits of an exponent. -/
def readExponentDigits (negative : Bool) (s : List Char) :
    Option (Option ExponentPart × List Char) :=
  match spanDigits s with
  | ([], _) => none
  | (ds, rest) => some (some ⟨negative, ds⟩, rest)

/-- Reads an exponent, if one follows. -/
def readExponent : List Char → Option (Option ExponentPart × List Char)
  | [] => some (none, [])
  | c :: rest =>
    if c = 'e' ∨ c = 'E' then
      match rest with
      | '+' :: rest => readExponentDigits false rest
      | '-' :: rest => readExponentDigits true rest
      | rest => readExponentDigits false rest
    else some (none, c :: rest)

/-- Reads a number literal after its sign. -/
def readNumber (negative : Bool) (s : List Char) : Option (NumberLiteral × List Char) := do
  let (whole, s) ← readWhole s
  let (fraction, s) ← readFraction s
  let (exponent, s) ← readExponent s
  pure (⟨negative, whole, fraction, exponent⟩, s)

/-- The rest of a text that starts with a word. -/
def afterWord? : List Char → List Char → Option (List Char)
  | [], s => some s
  | c :: word, d :: s => if c = d then afterWord? word s else none
  | _ :: _, [] => none

/-- Reads the token that starts with the character `c`. -/
def readToken (c : Char) (rest : List Char) : Option (Token × List Char) :=
  match c with
  | '[' => some (.openArray, rest)
  | ']' => some (.closeArray, rest)
  | '\x7b' => some (.openObject, rest)
  | '\x7d' => some (.closeObject, rest)
  | ',' => some (.comma, rest)
  | ':' => some (.colon, rest)
  | '"' => (readString rest).map fun r => (.string r.1, r.2)
  | 'n' => (afterWord? ['u', 'l', 'l'] rest).map (.null, ·)
  | 't' => (afterWord? ['r', 'u', 'e'] rest).map (.bool true, ·)
  | 'f' => (afterWord? ['a', 'l', 's', 'e'] rest).map (.bool false, ·)
  | '-' => (readNumber true rest).map fun r => (.number r.1, r.2)
  | c => (readNumber false (c :: rest)).map fun r => (.number r.1, r.2)

/-- Reading a string takes at least its closing quote. -/
theorem length_readString_lt {s : List Char} {pieces : List StringPiece} {rest : List Char}
    (h : readString s = some (pieces, rest)) : rest.length < s.length := by
  fun_induction readString s generalizing pieces rest with
  | case1 => simp at h
  | case2 rest' => simp_all
  | case3 a b c d rest' ih =>
    simp only [bind, Option.bind_eq_some_iff, pure, Option.some.injEq, Prod.mk.injEq] at h
    obtain ⟨_, _, ⟨q, r⟩, hr, _, rfl⟩ := h
    have := ih hr
    simp only [List.length_cons]
    omega
  | case4 c rest' _ ih =>
    simp only [bind, Option.bind_eq_some_iff, pure, Option.some.injEq, Prod.mk.injEq] at h
    obtain ⟨_, _, ⟨q, r⟩, hr, _, rfl⟩ := h
    have := ih hr
    simp only [List.length_cons]
    omega
  | case5 => simp at h
  | case6 c rest' _ _ _ _ ih =>
    simp only [bind, Option.bind_eq_some_iff, pure, Option.some.injEq, Prod.mk.injEq] at h
    obtain ⟨⟨q, r⟩, hr, _, rfl⟩ := h
    have := ih hr
    simp only [List.length_cons]
    omega

/-- The digits in front and what stands behind them make up the text. -/
theorem length_spanDigits (s : List Char) :
    (spanDigits s).1.length + (spanDigits s).2.length = s.length := by
  simp only [spanDigits, ← List.length_append, List.takeWhile_append_dropWhile]

/-- The whole part of a number has at least one digit. -/
theorem length_readWhole_lt {s ds rest : List Char} (h : readWhole s = some (ds, rest)) :
    rest.length < s.length := by
  have hs := length_spanDigits s
  unfold readWhole at h
  split at h
  · split at h <;> simp_all
  · split at h
    · simp at h
    · next hne =>
      have he : spanDigits s = (ds, rest) := by simpa using h
      rw [he] at hs hne
      cases ds with
      | nil => exact absurd rfl (hne rest)
      | cons d ds => simp only [List.length_cons] at hs; omega

/-- Reading a fraction, if there is one, leaves no more text than there was. -/
theorem length_readFraction_le {s : List Char} {f : Option (List Char)} {rest : List Char}
    (h : readFraction s = some (f, rest)) : rest.length ≤ s.length := by
  unfold readFraction at h
  split at h
  · next rest' =>
    have := length_spanDigits rest'
    split at h
    · simp at h
    · simp_all; omega
  · simp_all

/-- Reading the digits of an exponent leaves no more text than there was. -/
theorem length_readExponentDigits_le {negative : Bool} {s : List Char}
    {e : Option ExponentPart} {rest : List Char}
    (h : readExponentDigits negative s = some (e, rest)) : rest.length ≤ s.length := by
  have := length_spanDigits s
  unfold readExponentDigits at h
  split at h
  · simp at h
  · simp_all; omega

/-- Reading an exponent, if there is one, leaves no more text than there was. -/
theorem length_readExponent_le {s : List Char} {e : Option ExponentPart} {rest : List Char}
    (h : readExponent s = some (e, rest)) : rest.length ≤ s.length := by
  unfold readExponent at h
  split at h
  · simp_all
  · split at h
    · split at h <;> have := length_readExponentDigits_le h <;>
        simp_all only [List.length_cons] <;> omega
    · simp only [Option.some.injEq, Prod.mk.injEq] at h
      simp [← h.2]

/-- Reading a number takes at least one character. -/
theorem length_readNumber_lt {negative : Bool} {s : List Char} {l : NumberLiteral}
    {rest : List Char} (h : readNumber negative s = some (l, rest)) :
    rest.length < s.length := by
  simp only [readNumber, bind, Option.bind_eq_some_iff, pure, Option.some.injEq,
    Prod.mk.injEq] at h
  obtain ⟨⟨w, s₁⟩, h₁, ⟨f, s₂⟩, h₂, ⟨e, s₃⟩, h₃, _, rfl⟩ := h
  exact Nat.lt_of_le_of_lt (Nat.le_trans (length_readExponent_le h₃) (length_readFraction_le h₂))
    (length_readWhole_lt h₁)

/-- What stands behind a word is no longer than the text. -/
theorem length_afterWord?_le {word s rest : List Char} (h : afterWord? word s = some rest) :
    rest.length ≤ s.length := by
  fun_induction afterWord? word s with
  | case1 => simp_all
  | case2 c word s ih => have := ih h; simp only [List.length_cons]; omega
  | case3 => simp at h
  | case4 => simp at h

/-- A token takes the character that it starts with. -/
theorem length_readToken_le {c : Char} {s : List Char} {t : Token} {rest : List Char}
    (h : readToken c s = some (t, rest)) : rest.length ≤ s.length := by
  unfold readToken at h
  split at h
  case h_7 =>
    obtain ⟨r, hr, he⟩ := Option.map_eq_some_iff.1 h
    cases he
    exact Nat.le_of_lt (length_readString_lt hr)
  case h_8 | h_9 | h_10 =>
    obtain ⟨r, hr, he⟩ := Option.map_eq_some_iff.1 h
    cases he
    exact length_afterWord?_le hr
  case h_11 =>
    obtain ⟨r, hr, he⟩ := Option.map_eq_some_iff.1 h
    cases he
    exact Nat.le_of_lt (length_readNumber_lt hr)
  case h_12 =>
    obtain ⟨r, hr, he⟩ := Option.map_eq_some_iff.1 h
    cases he
    exact Nat.le_of_lt_succ (length_readNumber_lt hr)
  all_goals
    cases h
    exact Nat.le_refl _

/-- The tokens of a text, if all of it is tokens and gaps. -/
def scan : List Char → Option (List Token)
  | [] => some []
  | c :: rest =>
    if isGap c then scan rest
    else match readToken c rest, @length_readToken_le c rest with
      | some (t, rest'), h =>
        have : rest'.length ≤ rest.length := h rfl
        (scan rest').map (t :: ·)
      | none, _ => none
termination_by s => s.length

end IngestConsole.Json
