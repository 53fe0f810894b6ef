import IngestConsole.Proofs.Table.FilterPatches
import IngestConsole.Proofs.Wire.Tolerance

/-!
# Two readings of a filter

An object is read as the filter of a view state, or as a change of a filter that is merged into the
empty one.  A change takes the empty kind for no condition.  A filter that is read takes it for a kind
with an empty name, which no other reading gives.
-/

set_option autoImplicit false

namespace IngestConsole.Table

open Json Text Wire

/-! ## Filters that admit the same tasks -/

namespace Filter

/-- The task with nothing but what a filter asks for. -/
def model (f : Filter) : Task :=
  { name := f.name, kind := f.kind, status := f.status }

/-- Every text occurs in itself. -/
theorem occursIn_self (s : List Char) : occursIn s s = true :=
  occursIn_iff.2 List.infix_rfl

/-- A filter admits the model of another with its name if it asks for no kind and no status but
those of the other. -/
theorem admits_model_iff {f g : Filter} (named : f.name = g.name) :
    f.admits g.model = true ↔
      (f.kind = none ∨ g.kind = f.kind) ∧ (f.status = none ∨ g.status = f.status) := by
  have own : f.matchesName g.model = true := by
    rw [matchesName, model, named, occursAnyCase, occursIn_self, Bool.or_true]
  rw [admits, own, Bool.true_and, Bool.and_eq_true, matchesKind, matchesStatus, Bool.or_eq_true,
    Bool.or_eq_true, beq_iff_eq, beq_iff_eq, Option.isNone_iff_eq_none, Option.isNone_iff_eq_none,
    model]

/-- Two filters with one name admit the same tasks only if they are the same: each admits its own
model. -/
theorem admits_eq_iff {f g : Filter} (named : f.name = g.name) :
    (∀ t, f.admits t = g.admits t) ↔ f = g := by
  constructor
  · intro same
    have ofG : f.admits g.model = true := by
      rw [same, admits_model_iff rfl]
      exact ⟨.inr rfl, .inr rfl⟩
    have ofF : g.admits f.model = true := by
      rw [← same, admits_model_iff rfl]
      exact ⟨.inr rfl, .inr rfl⟩
    obtain ⟨kind, status⟩ := (admits_model_iff named).1 ofG
    obtain ⟨kind', status'⟩ := (admits_model_iff named.symm).1 ofF
    have eq_of {α : Type} {a b : Option α} (here : a = none ∨ b = a) (there : b = none ∨ a = b) :
        a = b := by
      rcases here with none | same
      · exact there.elim (fun other => none.trans other.symm) id
      · exact same.symm
    rw [Filter.mk.injEq]
    exact ⟨named, eq_of kind kind', eq_of status status'⟩
  · rintro rfl t
    rfl

end Filter

/-! ## The two readings -/

/-- The text under a name. -/
def textUnder (members : List (String × Value)) (name : String) : Option String :=
  match members.lookup name with
  | some (.string s) => some s
  | _ => none

/-- The members under the names of a filter are texts. -/
def TextMembers (members : List (String × Value)) : Prop :=
  ∀ m ∈ members, m.1 ∈ Filter.fieldNames → ∃ s, m.2 = .string s

variable {members : List (String × Value)}

/-- What is found among members that are texts is the text under the name. -/
theorem lookup_eq_textUnder (once : (members.map Prod.fst).Nodup) (texts : TextMembers members)
    {name : String} (known : name ∈ Filter.fieldNames) :
    members.lookup name = (textUnder members name).map .string := by
  rw [textUnder]
  cases found : members.lookup name with
  | none => rfl
  | some v =>
    obtain ⟨s, rfl⟩ := texts _ ((lookup_eq_some_iff_mem once).1 found) known
    rfl

/-- A text under a name is a member. -/
theorem textUnder_eq_some_iff (once : (members.map Prod.fst).Nodup) (texts : TextMembers members)
    (name : String) (known : name ∈ Filter.fieldNames) (s : String) :
    textUnder members name = some s ↔ (name, .string s) ∈ members := by
  rw [← lookup_eq_some_iff_mem once, lookup_eq_textUnder once texts known]
  cases textUnder members name <;> simp

/-- A text that must not be `null` is the one under its name, or the default. -/
theorem is_text {α : Type} (once : (members.map Prod.fst).Nodup) (texts : TextMembers members)
    {name : String} (known : name ∈ Filter.fieldNames) (absent : String) (part : α → String) :
    Slot.Is ⟨name, .text, absent, part⟩ members ((textUnder members name).getD absent) := by
  rw [Slot.Is, lookup_eq_textUnder once texts known]
  cases textUnder members name <;> rfl

/-- An optional text is the one under its name, if there is one. -/
theorem is_optionalText {α : Type} (once : (members.map Prod.fst).Nodup)
    (texts : TextMembers members) {name : String} (known : name ∈ Filter.fieldNames)
    (part : α → Option String) :
    Slot.Is ⟨name, .optional .text, none, part⟩ members (textUnder members name) := by
  rw [Slot.Is, lookup_eq_textUnder once texts known]
  cases textUnder members name with
  | none => rfl
  | some s => exact ⟨Value.noConfusion, rfl⟩

/-- Members that are texts are decoded as a filter, field by field. -/
theorem Filter.decode?_textMembers (once : (members.map Prod.fst).Nodup)
    (texts : TextMembers members) :
    Filter.decode? (Value.object members).document = some
      { name := (textUnder members "name").getD ""
        kind := (textUnder members "type").map .ofText
        status := (textUnder members "status").map .ofText } := by
  refine (Filter.reads _ _).2 ⟨members, .object members (once.filter _), ?_⟩
  simp only [Filter.layout, List.forall_mem_cons, Slot.Fills, TaskKind.map_text_ofText,
    TaskStatus.map_text_ofText]
  refine ⟨?_, ?_, ?_, List.forall_mem_nil _⟩
  · exact is_text once texts (by decide) _ _
  · exact is_optionalText once texts (by decide) _
  · exact is_optionalText once texts (by decide) _

/-- Members that are texts are decoded as a patch, field by field. -/
theorem FilterPatch.decode?_textMembers (once : (members.map Prod.fst).Nodup)
    (texts : TextMembers members) :
    FilterPatch.decode? (Value.object members).document = some
      { name := textUnder members "name"
        kind := textUnder members "type"
        status := textUnder members "status" } := by
  refine (FilterPatch.reads _ _).2 ⟨members, .object members (once.filter _), ?_⟩
  simp only [FilterPatch.layout, List.forall_mem_cons, Slot.Fills]
  refine ⟨?_, ?_, ?_, List.forall_mem_nil _⟩
  · exact is_optionalText once texts (by decide) _
  · exact is_optionalText once texts (by decide) _
  · exact is_optionalText once texts (by decide) _

/-- As the filter of a view state an object is read like a filter. -/
theorem ViewState.decode?_filter {v : Value} {f : Filter} (h : Filter.decode? v.document = some f) :
    ViewState.decode? (Value.object [("filter", v)]).document = some { filter := f } := by
  refine (ViewState.reads _ _).2 ⟨_, .object _ ((List.nodup_singleton _).filter _), ?_⟩
  simp only [ViewState.layout, List.forall_mem_cons]
  exact ⟨(Filter.reads _ _).1 h, rfl, rfl, List.forall_mem_nil _⟩

/-- A text always gives a condition, where a change takes the empty one for none. -/
theorem map_ofText_eq_iff {α : Type} (ofText : String → α) (given : Option String) :
    given.map ofText = (given.map (conditionOf ofText)).getD none ↔ given ≠ some "" := by
  cases given with
  | none => simp
  | some s =>
    by_cases empty : s = ""
    · simp [conditionOf, empty]
    · simp [conditionOf, empty]

/-- Read as a filter, the texts are what they are as a change of the empty filter, unless a condition
is the empty text. -/
theorem eq_merge_iff (p : FilterPatch) :
    ({ name := p.name.getD "", kind := p.kind.map .ofText, status := p.status.map .ofText } : Filter)
        = ({} : Filter).merge p ↔
      p.kind ≠ some "" ∧ p.status ≠ some "" := by
  rw [← map_ofText_eq_iff TaskKind.ofText, ← map_ofText_eq_iff TaskStatus.ofText]
  constructor
  · intro same
    exact ⟨(congrArg Filter.kind same).trans (Filter.merge_kind _ p),
      (congrArg Filter.status same).trans (Filter.merge_status _ p)⟩
  · rintro ⟨kind, status⟩
    rw [Filter.mk.injEq]
    exact ⟨rfl, kind.trans (Filter.merge_kind {} p).symm, status.trans (Filter.merge_status {} p).symm⟩

/-- An object whose name, kind and state are texts is read in both ways.  The filter of a view state
is the change merged into the empty filter, and they admit the same tasks, exactly if neither the kind
nor the state is the empty text. -/
theorem filterReadings_agree_iff (members : List (String × Value))
    (once : (members.map Prod.fst).Nodup) (texts : TextMembers members) :
    ∃ (f : Filter) (p : FilterPatch),
      Filter.decode? (Value.object members).document = some f
      ∧ ViewState.decode? (Value.object [("filter", .object members)]).document =
          some { filter := f }
      ∧ FilterPatch.decode? (Value.object members).document = some p
      ∧ (f = ({} : Filter).merge p ↔
          ("type", .string "") ∉ members ∧ ("status", .string "") ∉ members)
      ∧ ((∀ t, f.admits t = (({} : Filter).merge p).admits t) ↔
          ("type", .string "") ∉ members ∧ ("status", .string "") ∉ members) := by
  have filter := Filter.decode?_textMembers once texts
  have patch := FilterPatch.decode?_textMembers once texts
  have agree := eq_merge_iff
    ⟨textUnder members "name", textUnder members "type", textUnder members "status"⟩
  simp only [ne_eq, textUnder_eq_some_iff once texts "type" (by decide),
    textUnder_eq_some_iff once texts "status" (by decide)] at agree
  exact ⟨_, _, filter, ViewState.decode?_filter filter, patch, agree,
    (Filter.admits_eq_iff (by rfl)).trans agree⟩

/-- A wanted kind and a member that is no part of a filter are read alike in both ways. -/
theorem filterReadings_agree_kind :
    let members : List (String × Value) := [("type", .string "log"), ("lag", .null)]
    ∃ (f : Filter) (p : FilterPatch),
      Filter.decode? (Value.object members).document = some f
      ∧ FilterPatch.decode? (Value.object members).document = some p
      ∧ f = ({} : Filter).merge p := by
  intro members
  obtain ⟨f, p, filter, -, patch, agree, -⟩ :=
    filterReadings_agree_iff members (by decide) (by
      simp only [TextMembers, members, List.forall_mem_cons]
      exact ⟨fun _ => ⟨_, rfl⟩, fun known => absurd known (by decide), List.forall_mem_nil _⟩)
  exact ⟨f, p, filter, patch, agree.2 ⟨by simp [members], by simp [members]⟩⟩

/-- The empty kind is a condition that a task without a kind does not meet in a filter of a view
state, and no condition in a change. -/
theorem filterReadings_differ_emptyKind :
    let members : List (String × Value) := [("type", .string "")]
    ∃ (f : Filter) (p : FilterPatch) (t : Task),
      Filter.decode? (Value.object members).document = some f
      ∧ ViewState.decode? (Value.object [("filter", .object members)]).document =
          some { filter := f }
      ∧ FilterPatch.decode? (Value.object members).document = some p
      ∧ f ≠ ({} : Filter).merge p
      ∧ f.admits t = false ∧ (({} : Filter).merge p).admits t = true := by
  refine ⟨{ kind := some (.ofText "") }, { kind := some "" }, { name := "a" }, ?_, ?_, ?_, ?_⟩
  · decide +kernel
  · decide +kernel
  · decide +kernel
  · decide +kernel

end IngestConsole.Table
