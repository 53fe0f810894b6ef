import IngestConsole.Proofs.Text.Blanks
import IngestConsole.Table.Sort

/-!
# Names of columns

A column is named by its title with letters in any case, and with underscores and hyphens between,
before and behind them.  No such text names two columns.
-/

set_option autoImplicit false

namespace IngestConsole.Table.SortField

open Text

/-- The text is the name with letters in any case and with marks anywhere. -/
inductive Respelled : List Char → List Char → Prop
  | nil : Respelled [] []
  | mark {m : Char} (isMark : m = '_' ∨ m = '-') {name text : List Char}
      (rest : Respelled name text) : Respelled name (m :: text)
  | letter {c d : Char} (sameLetter : c = d.toLower ∨ c = d.toUpper) {name text : List Char}
      (rest : Respelled name text) : Respelled (d :: name) (c :: text)

/-- A text that spells a column. -/
def SpelledBy (f : SortField) (text : String) : Prop :=
  Respelled f.title.toList text.toList

/-- A letter of a title, in either case, is neither blank nor a mark, and has one lower case. -/
theorem letter_of_mem_title {f : SortField} {c d : Char} (mem : d ∈ f.title.toList)
    (same : c = d.toLower ∨ c = d.toUpper) :
    isBlank c = false ∧ (c ≠ '_' ∧ c ≠ '-') ∧ lowerChar c = [d.toLower] := by
  have all : (f.title.toList.all fun d => [d.toLower, d.toUpper].all fun c =>
      isBlank c = false && (c ≠ '_' ∧ c ≠ '-') && lowerChar c = [d.toLower]) = true := by
    cases f <;> decide +kernel
  have letter := List.all_eq_true.1 (List.all_eq_true.1 all d mem) c (by simpa using same)
  rw [Bool.and_eq_true, Bool.and_eq_true] at letter
  obtain ⟨⟨visible, noMark⟩, lower⟩ := letter
  exact ⟨of_decide_eq_true visible, of_decide_eq_true noMark, of_decide_eq_true lower⟩

/-- A name that is spelled another way has no blanks. -/
theorem isBlank_of_respelled {f : SortField} {name text : List Char} (title : name ⊆ f.title.toList)
    (h : Respelled name text) : ∀ c ∈ text, isBlank c = false := by
  induction h with
  | nil => exact List.forall_mem_nil _
  | mark isMark rest ih =>
    refine List.forall_mem_cons.2 ⟨?_, ih title⟩
    rcases isMark with rfl | rfl <;> decide
  | letter same rest ih =>
    obtain ⟨first, later⟩ := List.cons_subset.1 title
    exact List.forall_mem_cons.2 ⟨(letter_of_mem_title first same).1, ih later⟩

/-- Without its marks and its case a name is the same, however it is spelled. -/
theorem caseKey_of_respelled {f : SortField} {name text : List Char} (title : name ⊆ f.title.toList)
    (h : Respelled name text) :
    caseKey (text.filter fun c => c ≠ '_' && c ≠ '-') = name.map Char.toLower := by
  induction h with
  | nil => rfl
  | mark isMark rest ih =>
    rw [List.filter_cons_of_neg, ih title]
    rcases isMark with rfl | rfl <;> decide
  | @letter c d same name text rest ih =>
    obtain ⟨first, later⟩ := List.cons_subset.1 title
    obtain ⟨-, noMark, lower⟩ := letter_of_mem_title first same
    rw [List.filter_cons_of_pos (by simpa using noMark), caseKey, List.flatMap_cons, lower, ← caseKey,
      ih later, List.map_cons, List.singleton_append]

/-- However a column is spelled, it is read. -/
theorem ofText_of_spelledBy {f : SortField} {text : String} (h : f.SpelledBy text) :
    ofText text = .ok f := by
  have whole : trim text.toList = text.toList :=
    trim_of_visible (isBlank_of_respelled (List.Subset.refl _) h)
  have normal : normalName text = f.title.toList.map Char.toLower := by
    rw [normalName, whole, caseKey_of_respelled (List.Subset.refl _) h]
  have found : (all.find? fun g => g.title.toList.map Char.toLower ==
      f.title.toList.map Char.toLower) = some f := by
    cases f <;> decide
  rw [ofText, normal, found]

end IngestConsole.Table.SortField
