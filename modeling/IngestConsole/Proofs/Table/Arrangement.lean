import IngestConsole.Table.Projection
import Mathlib

/-!
# The order of the shown tasks

A column gives every task a key in a linear order: nothing, a text without letter case, or a number.
Sorting by a column arranges the tasks that the filter admits by their keys, from the least up or
from the greatest down, and leaves tasks with equal keys in the order in which they came, in either
direction.  That the comparison of tasks by a column is a total preorder is then a fact about keys.
-/

set_option autoImplicit false

namespace IngestConsole.Table

open Text Wire

/-! ## Stable sorting -/

/-- Sorting leaves elements that the comparison does not tell apart in the order in which they
came. -/
theorem filter_mergeSort {α : Type} {le : α → α → Bool}
    (trans : ∀ a b c, le a b = true → le b c = true → le a c = true)
    (total : ∀ a b, (le a b || le b a) = true) {p : α → Bool}
    (tied : ∀ a b, p a = true → p b = true → le a b = true) (l : List α) :
    (l.mergeSort le).filter p = l.filter p := by
  have sorted : (l.filter p).Pairwise fun a b => le a b = true := by
    refine List.Pairwise.imp_of_mem (R := fun _ _ => True) (fun {a b} ha hb _ => ?_)
      (List.pairwise_of_forall fun _ _ => trivial)
    exact tied a b (List.mem_filter.1 ha).2 (List.mem_filter.1 hb).2
  have kept : (l.filter p).Sublist (l.mergeSort le) :=
    List.sublist_mergeSort trans total sorted List.filter_sublist
  have within : (l.filter p).Sublist ((l.mergeSort le).filter p) := by
    simpa using kept.filter p
  exact (within.eq_of_length ((List.mergeSort_perm l le).filter p).length_eq.symm).symm

/-! ## Keys -/

/-- A value by which tasks are ordered.  An absent value comes before all others. -/
abbrev SortKey : Type :=
  WithBot (List Char ⊕ₗ Int)

/-- A text as a key: the lower case of each of its characters. -/
def textKey (s : String) : SortKey :=
  ((Sum.inlₗ (caseKey s.toList) : List Char ⊕ₗ Int) : WithBot (List Char ⊕ₗ Int))

/-- A number as a key. -/
def numberKey (n : Int64) : SortKey :=
  ((Sum.inrₗ n.toInt : List Char ⊕ₗ Int) : WithBot (List Char ⊕ₗ Int))

/-- The key of a task in a column. -/
def SortField.key (f : SortField) (t : Task) : SortKey :=
  match f with
  | .name => textKey t.name
  | .cluster => textKey t.cluster
  | .table => textKey t.table
  | .topic => textKey t.topic
  | .consumerGroup => textKey t.consumerGroup
  | .kind => (t.kind.map TaskKind.text).elim ⊥ textKey
  | .status => (t.status.map TaskStatus.text).elim ⊥ textKey
  | .lag => numberKey t.lag
  | .writeSpeed => t.writeSpeed.elim ⊥ textKey
  | .lastUpdate => t.lastUpdate.elim ⊥ numberKey

/-- Texts are ordered by their letters without case. -/
theorem textKey_le_textKey {a b : String} :
    textKey a ≤ textKey b ↔ caseKey a.toList ≤ caseKey b.toList := by
  simp [textKey]

/-- Numbers are ordered as they are. -/
theorem numberKey_le_numberKey {a b : Int64} : numberKey a ≤ numberKey b ↔ a ≤ b := by
  simp [numberKey, Int64.le_iff_toInt_le]

/-- Texts are compared by their keys. -/
theorem textLe_iff (a b : String) : textLe a b = true ↔ textKey a ≤ textKey b := by
  have lex : (List.lex (caseKey b.toList) (caseKey a.toList) fun x y => x.val < y.val) = true ↔
      caseKey b.toList < caseKey a.toList := List.lex_eq_true_iff_lt
  rw [textKey_le_textKey, textLe, Bool.not_eq_true', ← Bool.not_eq_true, lex, not_lt]

/-- An order extended by an absent value is the order of the keys, extended by a least one. -/
theorem optionLe_iff {α : Type} {le : α → α → Bool} {key : α → SortKey}
    (h : ∀ a b, le a b = true ↔ key a ≤ key b) (present : ∀ a, key a ≠ ⊥) (a b : Option α) :
    optionLe le a b = true ↔ a.elim ⊥ key ≤ b.elim ⊥ key := by
  cases a with
  | none => simp [optionLe]
  | some a =>
    cases b with
    | none => simp [optionLe, present a]
    | some b => exact h a b

/-- A text does not count as missing. -/
theorem textKey_ne_bot (s : String) : textKey s ≠ ⊥ :=
  WithBot.coe_ne_bot

/-- A number does not count as missing. -/
theorem numberKey_ne_bot (n : Int64) : numberKey n ≠ ⊥ :=
  WithBot.coe_ne_bot

/-- Every column compares tasks by their keys. -/
theorem SortField.le_iff (f : SortField) (a b : Task) : f.le a b = true ↔ f.key a ≤ f.key b := by
  have number : ∀ m n : Int64, decide (m ≤ n) = true ↔ numberKey m ≤ numberKey n := fun m n => by
    rw [decide_eq_true_eq, numberKey_le_numberKey]
  cases f with
  | name => exact textLe_iff _ _
  | cluster => exact textLe_iff _ _
  | table => exact textLe_iff _ _
  | topic => exact textLe_iff _ _
  | consumerGroup => exact textLe_iff _ _
  | kind => exact optionLe_iff textLe_iff textKey_ne_bot _ _
  | status => exact optionLe_iff textLe_iff textKey_ne_bot _ _
  | lag => exact number a.lag b.lag
  | writeSpeed => exact optionLe_iff textLe_iff textKey_ne_bot _ _
  | lastUpdate => exact optionLe_iff number numberKey_ne_bot _ _

/-- In ASCII the lower case of a text is that of its letters. -/
theorem caseKey_of_ascii {s : List Char} (h : ∀ c ∈ s, c.toNat < 128) :
    caseKey s = s.map Char.toLower := by
  induction s with
  | nil => rfl
  | cons c s ih =>
    have head : lowerChar c = [c.toLower] := by simp [lowerChar, h c (List.mem_cons_self ..)]
    have tail := ih fun x hx => h x (List.mem_cons_of_mem c hx)
    simp only [caseKey] at tail
    simp [caseKey, head, tail]

/-- Texts in ASCII are ordered by their lower case. -/
theorem textKey_le_of_ascii {a b : String} (ha : ∀ c ∈ a.toList, c.toNat < 128)
    (hb : ∀ c ∈ b.toList, c.toNat < 128) :
    textKey a ≤ textKey b ↔ a.toList.map Char.toLower ≤ b.toList.map Char.toLower := by
  rw [textKey_le_textKey, caseKey_of_ascii ha, caseKey_of_ascii hb]

/-! ## Arranged tasks -/

/-- The order of keys in a direction. -/
def SortOrder.InOrder (order : SortOrder) (a b : SortKey) : Prop :=
  match order with
  | ascending => a ≤ b
  | descending => b ≤ a

/-- The rows are the tasks in the order of a sorting. -/
structure Arranged (s : Sorting) (tasks rows : List Task) : Prop where
  /-- No task is lost, added or repeated. -/
  perm : rows.Perm tasks
  /-- Of any two rows the earlier one has the smaller key, the greater one when descending. -/
  ordered : ∀ f, s.field = some f → ∀ i j (_ : i < j) (_ : j < rows.length),
    s.order.InOrder (f.key rows[i]) (f.key rows[j])
  /-- The tasks with one key come in the order in which they came before, in both directions. -/
  stable : ∀ f, s.field = some f → ∀ k : SortKey,
    rows.filter (fun t => f.key t = k) = tasks.filter (fun t => f.key t = k)
  /-- Without a column nothing moves. -/
  unsorted : s.field = none → rows = tasks

/-- In a direction a column compares tasks by the order of their keys in that direction. -/
theorem directed_iff (order : SortOrder) (f : SortField) (a b : Task) :
    order.directed f.le a b = true ↔ order.InOrder (f.key a) (f.key b) := by
  cases order with
  | ascending => exact f.le_iff a b
  | descending => exact f.le_iff b a

/-- The order of a column is transitive in either direction. -/
theorem directed_trans (order : SortOrder) (f : SortField) (a b c : Task)
    (ab : order.directed f.le a b = true) (bc : order.directed f.le b c = true) :
    order.directed f.le a c = true := by
  rw [directed_iff] at *
  cases order with
  | ascending => exact le_trans ab bc
  | descending => exact le_trans bc ab

/-- The order of a column is total in either direction. -/
theorem directed_total (order : SortOrder) (f : SortField) (a b : Task) :
    (order.directed f.le a b || order.directed f.le b a) = true := by
  rw [Bool.or_eq_true, directed_iff, directed_iff]
  cases order with
  | ascending => exact le_total _ _
  | descending => exact le_total _ _

/-- Tasks with the same key stand in either order. -/
theorem directed_of_key_eq (order : SortOrder) {f : SortField} {a b : Task}
    (h : f.key a = f.key b) : order.directed f.le a b = true := by
  rw [directed_iff, h]
  cases order <;> exact le_refl _

/-- Sorting arranges the tasks. -/
theorem arranged_apply (s : Sorting) (tasks : List Task) : Arranged s tasks (s.apply tasks) := by
  cases field : s.field with
  | none =>
    have same : s.apply tasks = tasks := by simp [Sorting.apply, field]
    rw [same]
    refine ⟨List.Perm.refl _, fun f some_field => ?_, fun f some_field => ?_, fun _ => rfl⟩
    all_goals simp [field] at some_field
  | some f =>
    have sorted : s.apply tasks = tasks.mergeSort (s.order.directed f.le) := by
      simp [Sorting.apply, field]
    rw [sorted]
    refine ⟨List.mergeSort_perm _ _, ?_, ?_, fun no_field => by simp [field] at no_field⟩
    · intro g some_field i j ij hj
      obtain rfl : f = g := Option.some.inj (field.symm.trans some_field)
      have pairwise := List.pairwise_mergeSort (directed_trans s.order f)
        (directed_total s.order f) tasks
      rw [← directed_iff]
      exact List.pairwise_iff_getElem.1 pairwise i j _ hj ij
    · intro g some_field k
      obtain rfl : f = g := Option.some.inj (field.symm.trans some_field)
      refine filter_mergeSort (directed_trans s.order f) (directed_total s.order f) ?_ tasks
      intro a b ha hb
      rw [decide_eq_true_eq] at ha hb
      exact directed_of_key_eq s.order (ha.trans hb.symm)

/-- The shown tasks of all pages are the admitted tasks, arranged by the selected column: every pair
of rows is in order, and tasks with equal keys keep the order of the store in both directions.
Every column compares tasks by keys of a linear order, so the comparison is a total preorder, and in
ASCII the keys of texts are compared letter by letter in lower case. -/
theorem filterAndSort_arranged (tasks : List Task) (filter : Filter) (sort : Sorting) :
    Arranged sort (tasks.filter filter.admits) (filterAndSort tasks filter sort) ∧
    (∀ f : SortField, (∀ a b, f.le a b = true ↔ f.key a ≤ f.key b) ∧
      (∀ a, f.le a a = true) ∧
      (∀ a b c, f.le a b = true → f.le b c = true → f.le a c = true) ∧
      (∀ a b, f.le a b = true ∨ f.le b a = true)) ∧
    (∀ a b : String, (∀ c ∈ a.toList, c.toNat < 128) → (∀ c ∈ b.toList, c.toNat < 128) →
      (textKey a ≤ textKey b ↔ a.toList.map Char.toLower ≤ b.toList.map Char.toLower)) := by
  refine ⟨arranged_apply _ _, fun f => ⟨f.le_iff, ?_, ?_, ?_⟩, fun a b => textKey_le_of_ascii⟩
  · exact fun a => directed_of_key_eq .ascending rfl
  · exact directed_trans .ascending f
  · exact fun a b => Bool.or_eq_true_iff.1 (directed_total .ascending f a b)

end IngestConsole.Table
