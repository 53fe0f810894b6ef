import IngestConsole.Proofs.Json.Printing
import IngestConsole.Proofs.Numeral.Grouping

/-!
# Characters of printed values

A value over several lines is written without control characters but for the line feeds between its
lines, since those within strings are escaped.  An array or an object that holds something is written
over several lines, the last of which ends in a bracket.
-/

set_option autoImplicit false

namespace IngestConsole.Json

open Numeral

/-- There are no control characters but line feeds. -/
def Printable (s : List Char) : Prop :=
  ∀ c ∈ s, c = '\n' ∨ 0x20 ≤ c.toNat

/-- The empty text is printable. -/
theorem printable_nil : Printable [] :=
  List.forall_mem_nil _

/-- A visible character in front keeps a text printable. -/
theorem Printable.cons {c : Char} (visible : 0x20 ≤ c.toNat) {s : List Char} (h : Printable s) :
    Printable (c :: s) :=
  List.forall_mem_cons.2 ⟨.inr visible, h⟩

/-- Printable texts in sequence are printable. -/
theorem Printable.append {s t : List Char} (h : Printable s) (h' : Printable t) :
    Printable (s ++ t) :=
  List.forall_mem_append.2 ⟨h, h'⟩

/-- A text of characters from a printable one is printable. -/
theorem Printable.of_subset {s t : List Char} (h : Printable t) (subset : s ⊆ t) : Printable s :=
  fun c mem => h c (subset mem)

/-- A printable text has no carriage return. -/
theorem Printable.return_not_mem {s : List Char} (h : Printable s) : '\r' ∉ s := by
  intro mem
  rcases h _ mem with feed | high
  · exact absurd feed (by decide)
  · exact absurd high (by decide)

/-- A text of visible characters is printable. -/
theorem printable_of_all {s : List Char} (h : s.all (fun c => 0x20 ≤ c.toNat) = true) :
    Printable s := by
  intro c mem
  exact .inr (of_decide_eq_true (List.all_eq_true.1 h c mem))

/-- A visible character repeated is printable. -/
theorem printable_replicate {c : Char} (visible : 0x20 ≤ c.toNat) (n : Nat) :
    Printable (List.replicate n c) := by
  intro d mem
  rw [List.eq_of_mem_replicate mem]
  exact .inr visible

/-! ## Numbers -/

/-- Numerals are printable. -/
theorem printable_digits (n : Nat) : Printable (digits n) := by
  intro c mem
  have digit : c.isDigit = true := isDigit_of_mem_digits mem
  have low : 48 ≤ c.toNat := (Char.isDigit_iff_toNat.1 digit).1
  exact .inr (by omega)

/-- A sign, if there is one, is printable. -/
theorem printable_sign {negative : Prop} [Decidable negative] :
    Printable (if negative then ['-'] else []) := by
  split
  · exact printable_nil.cons (by decide)
  · exact printable_nil

/-- The numerals of integers are printable. -/
theorem printable_intDigits (n : Int) : Printable (intDigits n) := by
  rw [intDigits]
  split
  · exact (printable_digits _).cons (by decide)
  · exact printable_digits _

/-- Stripping zeros adds no characters. -/
theorem stripZeros_subset (ds : List Char) : (stripZeros ds).1 ⊆ ds := by
  intro c mem
  have kept : c ∈ ds.reverse.dropWhile (· == '0') := List.mem_reverse.1 mem
  exact List.mem_reverse.1 ((List.dropWhile_suffix _).subset kept)

/-- A decimal written out in full is printable. -/
theorem printable_positional {ds : List Char} (h : Printable ds) (k : Int) :
    Printable (positional ds k) := by
  have zeros : ∀ n, Printable (List.replicate n '0') := printable_replicate (by decide)
  unfold positional
  split
  · exact (((zeros _).append h).cons (by decide)).cons (by decide)
  · have whole := (h.of_subset (List.take_subset k.toNat ds)).append (zeros (k.toNat - ds.length))
    have rest : Printable (if (ds.drop k.toNat).isEmpty then ['0'] else ds.drop k.toNat) := by
      split
      · exact printable_nil.cons (by decide)
      · exact h.of_subset (List.drop_subset k.toNat ds)
    exact whole.append (rest.cons (by decide))

/-- A decimal with an exponent is printable. -/
theorem printable_scientific {ds : List Char} (h : Printable ds) (e : Int) :
    Printable (floatLayout.scientific ds e) := by
  unfold DecimalLayout.scientific
  refine Printable.append (Printable.append ?_ ?_) (printable_digits _)
  · split
    · exact printable_nil
    · exact h
    · next d rest _ =>
      obtain ⟨first, later⟩ := List.forall_mem_cons.1 h
      exact List.forall_mem_cons.2 ⟨first, Printable.cons (by decide) later⟩
  · split
    · exact (printable_nil.cons (by decide)).cons (by decide)
    · exact (printable_nil.cons (by decide)).cons (by decide)

/-- Numbers are printable. -/
theorem printable_number (n : Number) : Printable n.text := by
  cases n with
  | int n => exact printable_intDigits n.val
  | float x =>
    have ds : Printable x.shortest.1 := (printable_digits _).of_subset (stripZeros_subset _)
    unfold Number.text DecimalLayout.text
    refine printable_sign.append ?_
    split
    · exact ((printable_nil.cons (by decide)).cons (by decide)).cons (by decide)
    · dsimp only
      split
      · exact printable_positional ds _
      · exact printable_scientific ds _

/-! ## Strings -/

/-- Every character is printable once it is escaped. -/
theorem printable_escapeChar (c : Char) : Printable (escapeChar c) := by
  have hexadecimal : ∀ n < 0x20, 0x20 ≤ (Nat.digitChar (n / 16)).toNat
      ∧ 0x20 ≤ (Nat.digitChar (n % 16)).toNat := by
    decide
  unfold escapeChar
  -- the escapes of two characters, one after the other
  iterate 7
    split
    · exact (printable_nil.cons (by decide)).cons (by decide)
  split
  · next control =>
    obtain ⟨high, low⟩ := hexadecimal _ control
    exact ((((((printable_nil.cons low).cons high).cons (by decide)).cons (by decide)).cons
      (by decide)).cons (by decide))
  · next visible => exact printable_nil.cons (Nat.le_of_not_lt visible)

/-- String literals are printable. -/
theorem printable_stringText (s : String) : Printable (stringText s) := by
  have inner : Printable (s.toList.flatMap escapeChar) := by
    intro c mem
    obtain ⟨d, -, escaped⟩ := List.mem_flatMap.1 mem
    exact printable_escapeChar d c escaped
  exact (inner.append (printable_nil.cons (by decide))).cons (by decide)

/-! ## Values -/

/-- A line feed with its indentation is printable. -/
theorem printable_newLine (level : Nat) : Printable (newLine level) :=
  List.forall_mem_cons.2 ⟨.inl rfl, printable_replicate (by decide) _⟩

mutual

/-- Values are printable at any level of indentation. -/
theorem printable_prettyAt (level : Nat) (v : Value) : Printable (v.prettyAt level) := by
  match v with
  | .null => exact printable_of_all rfl
  | .bool true => exact printable_of_all rfl
  | .bool false => exact printable_of_all rfl
  | .number n => exact printable_number n
  | .string s => exact printable_stringText s
  | .array [] => exact printable_of_all rfl
  | .array (v :: rest) =>
    have item := (printable_newLine (level + 1)).append (printable_prettyAt (level + 1) v)
    exact (item.append (printable_prettyItems level rest)).cons (by decide)
  | .object [] => exact printable_of_all rfl
  | .object ((key, v) :: rest) =>
    have member := ((printable_prettyAt (level + 1) v).cons (c := ' ') (by decide)).cons
      (c := ':') (by decide)
    have members := ((printable_newLine (level + 1)).append (printable_stringText key)).append member
    exact (members.append (printable_prettyMembers level rest)).cons (by decide)

/-- Items are printable at any level of indentation. -/
theorem printable_prettyItems (level : Nat) (items : List Value) :
    Printable (prettyItems level items) := by
  match items with
  | [] => exact (printable_newLine level).append (printable_nil.cons (by decide))
  | v :: rest =>
    have item := (printable_newLine (level + 1)).append (printable_prettyAt (level + 1) v)
    exact (item.append (printable_prettyItems level rest)).cons (by decide)

/-- Members are printable at any level of indentation. -/
theorem printable_prettyMembers (level : Nat) (members : List (String × Value)) :
    Printable (prettyMembers level members) := by
  match members with
  | [] => exact (printable_newLine level).append (printable_nil.cons (by decide))
  | (key, v) :: rest =>
    have member := ((printable_prettyAt (level + 1) v).cons (c := ' ') (by decide)).cons
      (c := ':') (by decide)
    have members := ((printable_newLine (level + 1)).append (printable_stringText key)).append member
    exact (members.append (printable_prettyMembers level rest)).cons (by decide)

end

/-! ## Values over several lines -/

/-- An array or an object that holds something. -/
inductive Value.IsFilled : Value → Prop
  | array (v : Value) (rest : List Value) : IsFilled (.array (v :: rest))
  | object (m : String × Value) (rest : List (String × Value)) : IsFilled (.object (m :: rest))

/-- Items end with the bracket that closes them. -/
theorem getLast?_prettyItems (level : Nat) (items : List Value) :
    (prettyItems level items).getLast? = some ']' := by
  induction items with
  | nil => rw [prettyItems, List.getLast?_append, List.getLast?_singleton, Option.some_or]
  | cons v rest ih => rw [prettyItems, List.getLast?_append, ih, Option.some_or]

/-- Members end with the brace that closes them. -/
theorem getLast?_prettyMembers (level : Nat) (members : List (String × Value)) :
    (prettyMembers level members).getLast? = some '\x7d' := by
  induction members with
  | nil => rw [prettyMembers, List.getLast?_append, List.getLast?_singleton, Option.some_or]
  | cons m rest ih =>
    obtain ⟨key, v⟩ := m
    rw [prettyMembers, List.getLast?_append, ih, Option.some_or]

/-- A new line has a line feed. -/
theorem feed_mem_newLine (level : Nat) : '\n' ∈ newLine level :=
  List.mem_cons_self

/-- A list or object that holds something is printed on several lines. -/
theorem Value.IsFilled.feed_mem_pretty {v : Value} (filled : v.IsFilled) : '\n' ∈ v.pretty := by
  have inner : '\n' ∈ newLine 1 := feed_mem_newLine 1
  cases filled with
  | array v rest =>
    apply List.mem_append_left
    exact List.mem_append_left _ (List.mem_cons_of_mem _ inner)
  | object m rest =>
    apply List.mem_append_left
    apply List.mem_append_left
    exact List.mem_append_left _ (List.mem_cons_of_mem _ inner)

/-- A list or object that holds something does not end with a line feed. -/
theorem Value.IsFilled.getLast?_pretty {v : Value} (filled : v.IsFilled) :
    v.pretty.getLast? ≠ some '\n' := by
  cases filled with
  | array v rest =>
    rw [Value.pretty, Value.prettyAt, List.getLast?_append, getLast?_prettyItems, Option.some_or]
    decide
  | object m rest =>
    rw [Value.pretty, Value.prettyAt, List.getLast?_append, getLast?_prettyMembers, Option.some_or]
    decide

end IngestConsole.Json
