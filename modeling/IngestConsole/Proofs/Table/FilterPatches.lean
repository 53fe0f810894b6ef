import IngestConsole.Table.Filter
import Mathlib.Data.List.Infix

/-!
# Filters after patches

A filter that was changed by one patch after another has the name, the kind and the state of the last
patch that gives one.  A task meets it if the text of the filter stands somewhere in its name, letter
case ignored, and if its kind and its state are spelled like the wanted ones.
-/

set_option autoImplicit false

namespace IngestConsole.Table

open Text Wire

/-! ## Parts of a text -/

/-- A part occurs where it is an infix. -/
theorem occursIn_iff {part s : List Char} : occursIn part s = true ↔ part <:+: s := by
  induction s with
  | nil => rw [occursIn, List.isEmpty_iff, List.infix_nil]
  | cons c rest ih =>
    rw [occursIn, Bool.or_eq_true, List.isPrefixOf_iff_prefix, ih, List.infix_cons_iff]

/-- The text is written in ASCII. -/
def IsAscii (s : String) : Prop :=
  ∀ c ∈ s.toList, c.toNat < 128

instance (s : String) : Decidable (IsAscii s) :=
  List.decidableBAll (fun c : Char => c.toNat < 128) s.toList

/-- In ASCII the lower case is taken letter by letter. -/
theorem lower_of_ascii {s : String} (ascii : IsAscii s) :
    lower s.toList = s.toList.map Char.toLower := by
  have after : ∀ (rest before : List Char), (∀ c ∈ rest, c.toNat < 128) →
      lowerFrom before rest = rest.map Char.toLower := by
    intro rest
    induction rest with
    | nil => exact fun _ _ => rfl
    | cons c rest ih =>
      intro before plain
      obtain ⟨here, later⟩ := List.forall_mem_cons.1 plain
      have noSigma : c ≠ 'Σ' := by
        rintro rfl
        exact absurd here (by decide)
      rw [lowerFrom, if_neg noSigma, lowerChar, if_pos here, ih _ later, List.map_cons,
        List.singleton_append]
  exact after s.toList [] ascii

/-- In `s` the characters from position `i` on are those of `part`, letter case ignored. -/
def StandsAt (part s : List Char) (i : Nat) : Prop :=
  ∀ j (_ : j < part.length), ∃ c, s[i + j]? = some c ∧ c.toLower = part[j].toLower

/-- In lower case a part is an infix where it stands at some place but for case. -/
theorem infix_map_iff {part s : List Char} :
    part.map Char.toLower <:+: s.map Char.toLower ↔ ∃ i, StandsAt part s i := by
  constructor
  · intro within
    obtain ⟨i, -, agree⟩ := List.infix_iff_getElem?.1 within
    refine ⟨i, fun j inside => ?_⟩
    have here := agree j (by rwa [List.length_map])
    rw [List.getElem?_map, List.getElem_map, Option.map_eq_some_iff, Nat.add_comm] at here
    exact here
  · rintro ⟨i, stands⟩
    -- an empty part may stand behind the end, where the indices say nothing
    by_cases empty : part = []
    · rw [empty, List.map_nil]
      exact List.nil_infix
    have last : part.length - 1 < part.length := by
      have := List.length_pos_iff.2 empty
      omega
    obtain ⟨c, there, -⟩ := stands _ last
    have bound := (List.getElem?_eq_some_iff.1 there).1
    refine List.infix_iff_getElem?.2 ⟨i, by simp only [List.length_map]; omega, fun j inside => ?_⟩
    rw [List.length_map] at inside
    rw [List.getElem?_map, List.getElem_map, Option.map_eq_some_iff, Nat.add_comm]
    exact stands j inside

/-- The empty text stands everywhere. -/
theorem matchesName_iff {f : Filter} {t : Task} (filter : IsAscii f.name) (name : IsAscii t.name) :
    f.matchesName t = true ↔ ∃ i, StandsAt f.name.toList t.name.toList i := by
  rw [Filter.matchesName, Bool.or_eq_true, occursAnyCase, occursIn_iff, lower_of_ascii filter,
    lower_of_ascii name, infix_map_iff]
  refine or_iff_right_of_imp fun empty => ⟨0, fun j inside => absurd inside ?_⟩
  have none : f.name.toList.length = 0 := by simpa using empty
  omega

/-! ## Tasks that meet a filter -/

/-- What a filter asks of a task. -/
structure Filter.MetBy (f : Filter) (t : Task) : Prop where
  /-- The text of the filter stands somewhere in the name. -/
  name : ∃ i, StandsAt f.name.toList t.name.toList i
  /-- The task has a kind, and it is spelled like the wanted one. -/
  kind : ∀ raw, f.kind.map TaskKind.text = some raw → t.kind.map TaskKind.text = some raw
  /-- The task has a state, and it is spelled like the wanted one. -/
  status : ∀ raw, f.status.map TaskStatus.text = some raw → t.status.map TaskStatus.text = some raw

/-- To compare kinds or states is to compare their spellings, for different ones are spelled
differently. -/
theorem condition_iff {α : Type} [DecidableEq α] {text : α → String} (inj : text.Injective)
    (wanted own : Option α) :
    (wanted.isNone || own == wanted) = true ↔
      ∀ raw, wanted.map text = some raw → own.map text = some raw := by
  cases wanted with
  | none => simp
  | some w =>
    rw [Option.isNone_some, Bool.false_or, beq_iff_eq, ← (Option.map_injective inj).eq_iff,
      Option.map_some]
    exact ⟨fun same _ spelled => same.trans spelled, fun spelled => spelled _ rfl⟩

/-- Where a condition was set only if there was none, what meets the new one meets the old one. -/
theorem condition_of_set {α : Type} [DecidableEq α] {wanted own : Option α}
    {set : Option (Option α)} (fresh : set ≠ none → wanted = none)
    (h : ((set.getD wanted).isNone || own == set.getD wanted) = true) :
    (wanted.isNone || own == wanted) = true := by
  cases set with
  | none => exact h
  | some _ =>
    rw [fresh (Option.some_ne_none _), Option.isNone_none, Bool.true_or]

/-- Different kinds have different texts. -/
theorem taskKind_text_injective : TaskKind.text.Injective :=
  Function.LeftInverse.injective TaskKind.ofText_text

/-- Different statuses have different texts. -/
theorem taskStatus_text_injective : TaskStatus.text.Injective :=
  Function.LeftInverse.injective TaskStatus.ofText_text

/-- In ASCII a filter admits the tasks that meet its conditions. -/
theorem Filter.admits_iff {f : Filter} {t : Task} (filter : IsAscii f.name)
    (name : IsAscii t.name) : f.admits t = true ↔ f.MetBy t := by
  rw [admits, Bool.and_eq_true, Bool.and_eq_true, matchesName_iff filter name, matchesKind,
    matchesStatus, condition_iff taskKind_text_injective, condition_iff taskStatus_text_injective]
  exact ⟨fun ⟨⟨name, kind⟩, status⟩ => ⟨name, kind, status⟩,
    fun met => ⟨⟨met.name, met.kind⟩, met.status⟩⟩

/-! ## Patches one after another -/

/-- The text that the last of the patches with such a text gives. -/
def lastGiven (part : FilterPatch → Option String) (ps : List FilterPatch) : Option String :=
  (ps.filterMap part).getLast?

/-- Two patches as one: each part from the second patch if that has it, else from the first. -/
def FilterPatch.followedBy (p q : FilterPatch) : FilterPatch where
  name := q.name.or p.name
  kind := q.kind.or p.kind
  status := q.status.or p.status

/-- The patch touches only what the filter leaves open. -/
structure FilterPatch.Narrows (p : FilterPatch) (f : Filter) : Prop where
  name : p.name ≠ none → f.name = ""
  kind : p.kind ≠ none → f.kind = none
  status : p.status ≠ none → f.status = none

/-- The condition that a text sets; the empty text sets none. -/
def conditionOf {α : Type} (ofText : String → α) (s : String) : Option α :=
  if s.isEmpty then none else some (ofText s)

/-- What a part is after many patches, if a single patch replaces it or leaves it as it is. -/
theorem foldl_merge {β : Type} (part : Filter → β) {given : FilterPatch → Option β}
    (step : ∀ f p, part (f.merge p) = (given p).getD (part f)) (ps : List FilterPatch)
    (f : Filter) :
    part (ps.foldl Filter.merge f) = ((ps.filterMap given).getLast?).getD (part f) := by
  induction ps generalizing f with
  | nil => rfl
  | cons p rest ih =>
    rw [List.foldl_cons, ih, step]
    cases here : given p with
    | none => rw [List.filterMap_cons_none here, Option.getD_none]
    | some b =>
      rw [List.filterMap_cons_some here, List.getLast?_cons, Option.getD_some, Option.getD_some]

/-- A condition after many patches is the one that the last given text sets. -/
theorem foldl_merge_condition {α : Type} {part : Filter → Option α}
    {given : FilterPatch → Option String} {ofText : String → α} {text : α → String}
    (spelled : ∀ s, text (ofText s) = s)
    (step : ∀ f p, part (f.merge p) = ((given p).map (conditionOf ofText)).getD (part f))
    (open_empty : part {} = none) (ps : List FilterPatch) :
    (part (ps.foldl Filter.merge {})).map text = (lastGiven given ps).filter (· ≠ "") := by
  have set : ps.filterMap (fun p => (given p).map (conditionOf ofText)) =
      (ps.filterMap given).map (conditionOf ofText) := List.map_filterMap.symm
  rw [foldl_merge part step, set, List.getLast?_map, open_empty, lastGiven]
  cases (ps.filterMap given).getLast? with
  | none => rfl
  | some s =>
    by_cases empty : s = ""
    · simp [conditionOf, empty, Option.filter]
    · simp [conditionOf, empty, spelled, Option.filter]

namespace Filter

variable (f : Filter) (p q : FilterPatch)

/-- After a patch the kind is that of the patch, or what it was. -/
theorem merge_kind :
    (f.merge p).kind = (p.kind.map (conditionOf TaskKind.ofText)).getD f.kind := by
  rw [merge]
  cases p.kind <;> rfl

/-- After a patch the status is that of the patch, or what it was. -/
theorem merge_status :
    (f.merge p).status = (p.status.map (conditionOf TaskStatus.ofText)).getD f.status := by
  rw [merge]
  cases p.status <;> rfl

/-- Two patches in sequence are one. -/
theorem merge_merge : (f.merge p).merge q = f.merge (p.followedBy q) := by
  rcases q with ⟨name, kind, status⟩
  cases name <;> cases kind <;> cases status <;> rfl

/-- A patch made twice is a patch made once. -/
theorem merge_self : (f.merge p).merge p = f.merge p := by
  have once : p.followedBy p = p := by
    simp only [FilterPatch.followedBy, Option.or_self]
  rw [merge_merge, once]

variable {f p}

/-- A patch that narrows admits no further task. -/
theorem admits_of_merge {t : Task} (narrows : p.Narrows f) (h : (f.merge p).admits t = true) :
    f.admits t = true := by
  rw [admits, Bool.and_eq_true, Bool.and_eq_true] at h ⊢
  obtain ⟨⟨name, kind⟩, status⟩ := h
  rw [matchesKind, merge_kind] at kind
  rw [matchesStatus, merge_status] at status
  refine ⟨⟨?_, ?_⟩, ?_⟩
  · cases given : p.name with
    | none => simpa only [matchesName, merge, given, Option.getD_none] using name
    | some s => simp [matchesName, narrows.name (by simp [given])]
  · exact condition_of_set (fun given => narrows.kind (by simpa using given)) kind
  · exact condition_of_set (fun given => narrows.status (by simpa using given)) status

end Filter

/-! ## The law of filters -/

/-- What a filter is after patches that were merged, one after another, into the empty filter. -/
structure Patched (ps : List FilterPatch) (f : Filter) : Prop where
  /-- The name is the last given one. -/
  name : f.name = (lastGiven FilterPatch.name ps).getD ""
  /-- The kind is spelled like the last given one; there is none if that is empty. -/
  kind : f.kind.map TaskKind.text = (lastGiven FilterPatch.kind ps).filter (· ≠ "")
  /-- The state is spelled like the last given one; there is none if that is empty. -/
  status : f.status.map TaskStatus.text = (lastGiven FilterPatch.status ps).filter (· ≠ "")

/-- After any patches the filter is as the last ones say. -/
theorem patched_foldl (ps : List FilterPatch) : Patched ps (ps.foldl Filter.merge {}) where
  name := foldl_merge Filter.name (fun _ _ => rfl) ps {}
  kind := foldl_merge_condition TaskKind.text_ofText Filter.merge_kind rfl ps
  status := foldl_merge_condition TaskStatus.text_ofText Filter.merge_status rfl ps

/-- Patches that are merged one after another into the empty filter leave the name, the kind and the
state that were given last.  A task meets a filter exactly if the name of the filter stands in its
own, letter case ignored, and its kind and its state are spelled like the wanted ones.  Two patches
are one that prefers the later, a patch does nothing the second time, and a patch that only adds
conditions admits no further task. -/
theorem filter_afterPatches (ps : List FilterPatch) :
    Patched ps (ps.foldl Filter.merge {})
      ∧ (∀ (f : Filter) (t : Task), IsAscii f.name → IsAscii t.name →
          (f.admits t = true ↔ f.MetBy t))
      ∧ (∀ (f : Filter) (p q : FilterPatch), (f.merge p).merge q = f.merge (p.followedBy q))
      ∧ (∀ (f : Filter) (p : FilterPatch), (f.merge p).merge p = f.merge p)
      ∧ ∀ (f : Filter) (p : FilterPatch) (t : Task), p.Narrows f →
          (f.merge p).admits t = true → f.admits t = true := by
  refine ⟨patched_foldl ps, fun f t => Filter.admits_iff, ?_, ?_, ?_⟩
  · exact Filter.merge_merge
  · exact Filter.merge_self
  · exact fun f p t => Filter.admits_of_merge

/-- Three patches ask for a part of the name and a state, then for a kind, and then for any kind; a
task is still admitted once its own kind is asked for. -/
theorem filter_afterPatches_reopened :
    let ps : List FilterPatch :=
      [{ name := some "ORD", status := some "paused" }, { kind := some "trace" }, { kind := some "" }]
    let f := ps.foldl Filter.merge {}
    let p : FilterPatch := { kind := some "log" }
    let t : Task :=
      { name := "big_orders", kind := some .log, status := some (.other "paused" (by decide)) }
    f.kind = none ∧ f.status.map TaskStatus.text = some "paused" ∧ p.Narrows f
      ∧ (f.merge p).admits t = true ∧ f.admits t = true ∧ f.MetBy t := by
  intro ps f p t
  obtain ⟨patched, meets, -, -, narrowed⟩ := filter_afterPatches ps
  have narrows : p.Narrows f :=
    ⟨fun given => absurd rfl given, fun _ => rfl, fun given => absurd rfl given⟩
  have asked : (f.merge p).admits t = true := by decide +kernel
  have admitted : f.admits t = true := narrowed f p t narrows asked
  have met : f.MetBy t :=
    (meets f t (by decide) (by decide)).1 admitted
  exact ⟨rfl, patched.status, narrows, asked, admitted, met⟩

end IngestConsole.Table
