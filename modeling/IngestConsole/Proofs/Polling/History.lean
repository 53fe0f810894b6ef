import IngestConsole.Polling.StatusMonitor
import Mathlib.Data.List.Induction

/-!
# Histories of a status monitor

A history of happenings tells what a status monitor should show, without a word on generations: the
value of the last accepted answer since the last clearing.  An answer is accepted if it is a success
and nothing was opened or closed since its call; a closing clears, and so does the opening of a task
that is not the open one.
-/

set_option autoImplicit false

namespace IngestConsole.Polling

open Service Wire

/-- Something that happens to a status monitor. -/
inductive Happening
  /-- A task is opened; an absent or empty name closes the open one. -/
  | openTask (task : Option String)
  | close
  /-- The timer behind a handle ticks. -/
  | tick (handle : Nat)
  /-- A fetch out of turn is asked for. -/
  | refresh
  /-- The answer arrives to the call that was made at a place of the history. -/
  | arrive (origin : Nat) (result : Except CallError StatusSnapshot)

/-- An opening or a closing, which starts a new generation. -/
def Happening.isSwitch : Happening → Bool
  | openTask _ => true
  | close => true
  | _ => false

/-- A tick or a refresh, which calls for the open task. -/
def Happening.fetches : Happening → Bool
  | tick _ => true
  | refresh => true
  | _ => false

/-- The task that is open after something happened while `task` was open. -/
def Happening.openAfter (task : Option String) : Happening → Option String
  | openTask (some t) => if t = "" then none else some t
  | openTask none => none
  | close => none
  | _ => task

/-- The task that is open at the end of a history. -/
def openTaskOf (hs : List Happening) : Option String :=
  hs.foldl Happening.openAfter none

/-- After the history `hs`, the happening closes the open task or opens another one. -/
def Clears (hs : List Happening) : Happening → Prop
  | .close => True
  | .openTask none => True
  | .openTask (some task) => task = "" ∨ openTaskOf hs ≠ some task
  | _ => False

/-- After the history `hs`, the happening is the arrival of `value` as the answer to a call since
which nothing was opened or closed. -/
def Accepts (hs : List Happening) (value : StatusSnapshot) (h : Happening) : Prop :=
  ∃ origin, h = .arrive origin (.ok value) ∧ ∀ x ∈ hs.drop (origin + 1), x.isSwitch = false

/-- What happened at a place has a property, given what had happened before. -/
def At (P : List Happening → Happening → Prop) (hs : List Happening) (place : Nat) : Prop :=
  ∃ h, hs[place]? = some h ∧ P (hs.take place) h

/-- The open task was closed or changed at a place. -/
abbrev ClearedAt (hs : List Happening) (place : Nat) : Prop :=
  At Clears hs place

/-- The answer that arrived at a place was accepted, and this is its value. -/
abbrev AcceptedAt (hs : List Happening) (value : StatusSnapshot) (place : Nat) : Prop :=
  At (fun before h => Accepts before value h) hs place

/-- The value of the last accepted answer, nothing having been cleared since. -/
def Shows (hs : List Happening) (value : StatusSnapshot) : Prop :=
  ∃ place, AcceptedAt hs value place ∧
    ∀ later, place < later → ¬ ClearedAt hs later ∧ ∀ other, ¬ AcceptedAt hs other later

/-- Every accepted answer was cleared. -/
def ShowsNothing (hs : List Happening) : Prop :=
  ∀ place value, AcceptedAt hs value place → ∃ later, place < later ∧ ClearedAt hs later

/-- What holds at a place of a longer history holds at that place or is the last happening. -/
theorem at_append_iff {P : List Happening → Happening → Prop} {hs : List Happening}
    {h : Happening} {place : Nat} :
    At P (hs ++ [h]) place ↔ At P hs place ∨ (place = hs.length ∧ P hs h) := by
  unfold At
  rcases Nat.lt_trichotomy place hs.length with earlier | rfl | beyond
  · rw [List.getElem?_append_left earlier, List.take_append_of_le_length (Nat.le_of_lt earlier)]
    simp [Nat.ne_of_lt earlier]
  · simp
  · have outside : (hs ++ [h])[place]? = none := List.getElem?_eq_none (by simp; omega)
    have outside' : hs[place]? = none := List.getElem?_eq_none (by omega)
    simp [outside, outside', Nat.ne_of_gt beyond]

/-- What stands at a place stands within the history. -/
theorem At.lt_length {P : List Happening → Happening → Prop} {hs : List Happening} {place : Nat}
    (h : At P hs place) : place < hs.length := by
  obtain ⟨x, hx, -⟩ := h
  exact (List.getElem?_eq_some_iff.1 hx).1

/-- The task that is open after a happening is what the happening makes of the one before. -/
theorem openTaskOf_append (hs : List Happening) (h : Happening) :
    openTaskOf (hs ++ [h]) = h.openAfter (openTaskOf hs) := by
  simp [openTaskOf]

/-- What is no switch leaves the open task open. -/
theorem Happening.openAfter_of_not_isSwitch {h : Happening} (quiet : h.isSwitch = false)
    (task : Option String) : h.openAfter task = task := by
  cases h <;> simp_all [isSwitch, openAfter]

/-- What clears nothing leaves the open task. -/
theorem openAfter_of_not_clears {hs : List Happening} {h : Happening} (kept : ¬ Clears hs h) :
    h.openAfter (openTaskOf hs) = openTaskOf hs := by
  cases h with
  | openTask task =>
    cases task with
    | none => simp [Clears] at kept
    | some task => simp_all [Clears, Happening.openAfter]
  | close => simp [Clears] at kept
  | _ => rfl

/-- What clears the snapshot is a switch. -/
theorem isSwitch_of_clears {hs : List Happening} {h : Happening} (clears : Clears hs h) :
    h.isSwitch = true := by
  cases h <;> simp_all [Clears, Happening.isSwitch]

/-- An accepted answer clears nothing. -/
theorem Accepts.not_clears {hs : List Happening} {value : StatusSnapshot} {h : Happening}
    (accepted : Accepts hs value h) : ¬ Clears hs h := by
  obtain ⟨origin, rfl, -⟩ := accepted
  exact id

/-- A happening accepts one snapshot at most. -/
theorem Accepts.value_unique {hs : List Happening} {value other : StatusSnapshot} {h : Happening}
    (accepted : Accepts hs value h) (again : Accepts hs other h) : value = other := by
  obtain ⟨origin, rfl, -⟩ := accepted
  obtain ⟨origin', same, -⟩ := again
  simp only [Happening.arrive.injEq, Except.ok.injEq] at same
  exact same.2

/-- What a longer history shows: the answer that was accepted last of all, or what was shown before
if nothing was cleared or accepted. -/
theorem shows_append_iff {hs : List Happening} {h : Happening} {value : StatusSnapshot} :
    Shows (hs ++ [h]) value ↔
      Accepts hs value h ∨
        (¬ Clears hs h ∧ (∀ other, ¬ Accepts hs other h) ∧ Shows hs value) := by
  simp only [Shows, ClearedAt, AcceptedAt, at_append_iff]
  constructor
  · rintro ⟨place, accepted | ⟨rfl, accepted⟩, last⟩
    · have place_lt := accepted.lt_length
      refine Or.inr ⟨fun clears => (last _ place_lt).1 (Or.inr ⟨rfl, clears⟩),
        fun other again => (last _ place_lt).2 other (Or.inr ⟨rfl, again⟩), place, accepted, ?_⟩
      intro later after
      exact ⟨fun cleared => (last later after).1 (Or.inl cleared),
        fun other again => (last later after).2 other (Or.inl again)⟩
    · exact Or.inl accepted
  · rintro (accepted | ⟨kept, quiet, place, accepted, last⟩)
    · refine ⟨hs.length, Or.inr ⟨rfl, accepted⟩, ?_⟩
      intro later after
      constructor
      · rintro (cleared | ⟨rfl, -⟩)
        · exact absurd cleared.lt_length (by omega)
        · omega
      · rintro other (again | ⟨rfl, -⟩)
        · exact absurd again.lt_length (by omega)
        · omega
    · refine ⟨place, Or.inl accepted, ?_⟩
      intro later after
      constructor
      · rintro (cleared | ⟨-, clears⟩)
        · exact (last later after).1 cleared
        · exact kept clears
      · rintro other (again | ⟨-, accepts⟩)
        · exact (last later after).2 other again
        · exact quiet other accepts

/-- A longer history shows nothing if its last happening cleared, or if nothing was shown before and
no answer was accepted. -/
theorem showsNothing_append_iff {hs : List Happening} {h : Happening} :
    ShowsNothing (hs ++ [h]) ↔
      Clears hs h ∨ ((∀ value, ¬ Accepts hs value h) ∧ ShowsNothing hs) := by
  simp only [ShowsNothing, ClearedAt, AcceptedAt, at_append_iff]
  constructor
  · intro nothing
    by_cases clears : Clears hs h
    · exact Or.inl clears
    · refine Or.inr ⟨fun value accepted => ?_, fun place value accepted => ?_⟩
      · obtain ⟨later, after, cleared | ⟨-, cleared⟩⟩ :=
          nothing hs.length value (Or.inr ⟨rfl, accepted⟩)
        · exact absurd cleared.lt_length (by omega)
        · exact clears cleared
      · obtain ⟨later, after, cleared | ⟨-, cleared⟩⟩ := nothing place value (Or.inl accepted)
        · exact ⟨later, after, cleared⟩
        · exact absurd cleared clears
  · rintro (clears | ⟨quiet, nothing⟩) place value (accepted | ⟨rfl, accepted⟩)
    · exact ⟨hs.length, accepted.lt_length, Or.inr ⟨rfl, clears⟩⟩
    · exact absurd clears accepted.not_clears
    · obtain ⟨later, after, cleared⟩ := nothing place value accepted
      exact ⟨later, after, Or.inl cleared⟩
    · exact absurd accepted (quiet value)

/-- A task stays open as long as nothing is cleared. -/
theorem openTaskOf_eq_take {hs : List Happening} {place : Nat}
    (kept : ∀ later, place ≤ later → ¬ ClearedAt hs later) :
    openTaskOf hs = openTaskOf (hs.take place) := by
  induction hs using List.reverseRecOn with
  | nil => simp
  | append_singleton hs h ih =>
    rcases Nat.lt_or_ge hs.length place with beyond | within
    · rw [List.take_of_length_le (by simp; omega)]
    · have earlier : openTaskOf hs = openTaskOf (hs.take place) := by
        refine ih fun later after cleared => kept later after ?_
        exact at_append_iff.2 (Or.inl cleared)
      have last : ¬ Clears hs h := fun clears =>
        kept hs.length within (at_append_iff.2 (Or.inr ⟨rfl, clears⟩))
      rw [openTaskOf_append, openAfter_of_not_clears last, earlier,
        List.take_append_of_le_length within]

end IngestConsole.Polling
