import IngestConsole.Json.Token
import IngestConsole.Json.Value

/-!
# Texts that spell a value

Which texts spell a value is said here apart from how they are read: with any blanks between tokens,
with any of the escapes for a character, and with the members of an object in any order.  Each
relation takes a text, what its first part spells, and what is left of the text.
-/

set_option autoImplicit false

namespace IngestConsole.Json

open Numeral

/-- Only blanks stand before what is left. -/
def Gap (s t : List Char) : Prop :=
  ∃ blanks, (∀ c ∈ blanks, c = ' ' ∨ c = '\n' ∨ c = '\t' ∨ c = '\r') ∧ s = blanks ++ t

/-! ## Strings -/

/-- The escapes of two characters: what stands behind the backslash, and what it spells. -/
def shortEscapes : List (Char × Char) :=
  [('"', '"'), ('\\', '\\'), ('/', '/'), ('b', '\x08'), ('f', '\x0c'), ('n', '\n'), ('r', '\r'),
   ('t', '\t')]

/-- The ways to spell one character in a string. -/
inductive SpellsChar : List Char → Char → Prop
  | plain {c : Char} (printable : 0x20 ≤ c.toNat) (quote : c ≠ '"') (backslash : c ≠ '\\') :
      SpellsChar [c] c
  | short {mark c : Char} (known : (mark, c) ∈ shortEscapes) : SpellsChar ['\\', mark] c
  | unit {a b c d : Char} {u : Nat} (digits : codeUnit? a b c d = some u)
      (single : u < 0xd800 ∨ 0xdfff < u) : SpellsChar ['\\', 'u', a, b, c, d] (Char.ofNat u)
  /-- A character beyond 16 bits, as a surrogate pair. -/
  | pair {a b c d a' b' c' d' : Char} {u v : Nat} (digits : codeUnit? a b c d = some u)
      (digits' : codeUnit? a' b' c' d' = some v) (leading : 0xd800 ≤ u ∧ u ≤ 0xdbff)
      (trailing : 0xdc00 ≤ v ∧ v ≤ 0xdfff) :
      SpellsChar ['\\', 'u', a, b, c, d, '\\', 'u', a', b', c', d']
        (Char.ofNat (0x10000 + (u - 0xd800) * 0x400 + (v - 0xdc00)))

/-- What follows an opening quote spells characters up to the closing quote. -/
inductive SpellsChars : List Char → List Char → List Char → Prop
  | close (t : List Char) : SpellsChars ('"' :: t) [] t
  | char {p s cs t : List Char} {c : Char} (first : SpellsChar p c) (rest : SpellsChars s cs t) :
      SpellsChars (p ++ s) (c :: cs) t

/-- A text starts with a string. -/
def SpellsString (s : List Char) (text : String) (t : List Char) : Prop :=
  ∃ inner cs, s = '"' :: inner ∧ SpellsChars inner cs t ∧ text = String.ofList cs

/-! ## Numbers -/

/-- At least one digit, and nothing else. -/
def IsDigits (ds : List Char) : Prop :=
  ds ≠ [] ∧ ∀ d ∈ ds, d.isDigit = true

/-- The ways to spell the exponent of a number. -/
inductive SpellsExponent : List Char → Option ExponentPart → Prop
  | none : SpellsExponent [] none
  | unsigned {mark : Char} {ds : List Char} (exponent : mark = 'e' ∨ mark = 'E')
      (digits : IsDigits ds) : SpellsExponent (mark :: ds) (some ⟨false, ds⟩)
  | plus {mark : Char} {ds : List Char} (exponent : mark = 'e' ∨ mark = 'E')
      (digits : IsDigits ds) : SpellsExponent (mark :: '+' :: ds) (some ⟨false, ds⟩)
  | minus {mark : Char} {ds : List Char} (exponent : mark = 'e' ∨ mark = 'E')
      (digits : IsDigits ds) : SpellsExponent (mark :: '-' :: ds) (some ⟨true, ds⟩)

/-- A text is a number: a sign, digits without a zero before others, a point with digits behind it,
and an exponent. -/
structure SpellsLiteral (s : List Char) (l : NumberLiteral) : Prop where
  whole : IsDigits l.whole
  noLeadingZero : l.whole.head? = some '0' → l.whole = ['0']
  fraction : ∀ ds, l.fraction = some ds → IsDigits ds
  exponent : ∃ e, SpellsExponent e l.exponent ∧
    s = (if l.negative then ['-'] else []) ++ l.whole ++ l.fraction.elim [] ('.' :: ·) ++ e

/-! ## Values -/

/-- A text starts with the key of a member and a colon. -/
def SpellsKey (s : List Char) (key : String) (t : List Char) : Prop :=
  ∃ s₁ s₂, SpellsString s key s₁ ∧ Gap s₁ (':' :: s₂) ∧ Gap s₂ t

mutual

/-- A text starts with a value. -/
inductive Spells : List Char → Value → List Char → Prop
  | null (t : List Char) : Spells ('n' :: 'u' :: 'l' :: 'l' :: t) .null t
  | true (t : List Char) : Spells ('t' :: 'r' :: 'u' :: 'e' :: t) (.bool .true) t
  | false (t : List Char) : Spells ('f' :: 'a' :: 'l' :: 's' :: 'e' :: t) (.bool .false) t
  | int (n : WireInt) (t : List Char) : Spells (intDigits n.val ++ t) (.number (.int n)) t
  | float {s : List Char} {l : NumberLiteral} {x : Finite64} (literal : SpellsLiteral s l)
      (denotes : l.value? = some (.float x)) (t : List Char) :
      Spells (s ++ t) (.number (.float x)) t
  | string {s t : List Char} {text : String} (h : SpellsString s text t) :
      Spells s (.string text) t
  | emptyArray {s t : List Char} (gap : Gap s (']' :: t)) : Spells ('[' :: s) (.array []) t
  | array {s s' t : List Char} {items : List Value} (gap : Gap s s')
      (inside : SpellsItems s' items t) : Spells ('[' :: s) (.array items) t
  | emptyObject {s t : List Char} (gap : Gap s ('\x7d' :: t)) :
      Spells ('\x7b' :: s) (.object []) t
  /-- No key stands twice, and the order of the members does not matter. -/
  | object {s s' t : List Char} {members : List (String × Value)} (gap : Gap s s')
      (inside : SpellsMembers s' members t) (keys : (members.map Prod.fst).Nodup) :
      Spells ('\x7b' :: s) (.ofMembers members) t

/-- A text starts with the items of an array and its end. -/
inductive SpellsItems : List Char → List Value → List Char → Prop
  | last {s s' t : List Char} {v : Value} (item : Spells s v s') (gap : Gap s' (']' :: t)) :
      SpellsItems s [v] t
  | more {s s₁ s₂ s₃ t : List Char} {v : Value} {items : List Value} (item : Spells s v s₁)
      (before : Gap s₁ (',' :: s₂)) (after : Gap s₂ s₃) (rest : SpellsItems s₃ items t) :
      SpellsItems s (v :: items) t

/-- A text starts with the members of an object and its end. -/
inductive SpellsMembers : List Char → List (String × Value) → List Char → Prop
  | last {s s₁ s₂ t : List Char} {key : String} {v : Value} (name : SpellsKey s key s₁)
      (item : Spells s₁ v s₂) (gap : Gap s₂ ('\x7d' :: t)) : SpellsMembers s [(key, v)] t
  | more {s s₁ s₂ s₃ s₄ t : List Char} {key : String} {v : Value}
      {members : List (String × Value)} (name : SpellsKey s key s₁) (item : Spells s₁ v s₂)
      (before : Gap s₂ (',' :: s₃)) (after : Gap s₃ s₄) (rest : SpellsMembers s₄ members t) :
      SpellsMembers s ((key, v) :: members) t

end

/-- The whole of a text spells a value. -/
def IsTextOf (v : Value) (s : List Char) : Prop :=
  ∃ s₁ s₂, Gap s s₁ ∧ Spells s₁ v s₂ ∧ Gap s₂ []

/-! ## Gaps -/

/-- A gap may be empty. -/
theorem gap_refl (s : List Char) : Gap s s :=
  ⟨[], List.forall_mem_nil _, rfl⟩

/-- A gap may have one more blank in front. -/
theorem gap_cons {c : Char} (blank : c = ' ' ∨ c = '\n' ∨ c = '\t' ∨ c = '\r') {s t : List Char}
    (h : Gap s t) : Gap (c :: s) t := by
  obtain ⟨blanks, all, rfl⟩ := h
  exact ⟨c :: blanks, List.forall_mem_cons.2 ⟨blank, all⟩, rfl⟩

/-- A gap is left out character by character. -/
theorem gap_induction {P : List Char → Prop} {s t : List Char} (h : Gap s t) (nothing : P t)
    (blank : ∀ c s, (c = ' ' ∨ c = '\n' ∨ c = '\t' ∨ c = '\r') → P s → P (c :: s)) : P s := by
  obtain ⟨blanks, all, rfl⟩ := h
  induction blanks with
  | nil => exact nothing
  | cons c rest ih =>
    obtain ⟨first, later⟩ := List.forall_mem_cons.1 all
    exact blank c _ first (ih later)

/-! ## Ends of numbers -/

/-- What is left of a text does not go on with a number. -/
def EndsNumber (t : List Char) : Prop :=
  ∀ c ∈ t.head?, c.isDigit = false ∧ c ≠ '.' ∧ c ≠ 'e' ∧ c ≠ 'E'

/-- The end of the text ends a number. -/
theorem endsNumber_nil : EndsNumber [] := by
  intro c mem
  cases mem

/-- A character that continues no number ends it. -/
theorem endsNumber_cons {c : Char} (h : c.isDigit = false ∧ c ≠ '.' ∧ c ≠ 'e' ∧ c ≠ 'E')
    (t : List Char) : EndsNumber (c :: t) := by
  intro d mem
  cases mem
  exact h

/-- A blank ends a number, and so does what ends one behind the blanks. -/
theorem endsNumber_of_gap {s t : List Char} (h : Gap s t) (ends : EndsNumber t) :
    EndsNumber s := by
  apply gap_induction h ends
  intro c s blank _
  rcases blank with rfl | rfl | rfl | rfl
  all_goals
    apply endsNumber_cons
    decide

end IngestConsole.Json
