import IngestConsole.CommandLine.Invocation

/-!
# What options keep

A property of the options that were read, kept by every option on its own, is kept by reading a
whole command line.  So no command line asks for a log format that this build does not have.
-/

set_option autoImplicit false

namespace IngestConsole.CommandLine

open Logging

/-- What succeeds in two steps succeeded in the first. -/
theorem exists_of_bind_eq_ok {ε α β : Type} {x : Except ε α} {f : α → Except ε β} {b : β}
    (h : x.bind f = .ok b) : ∃ a, x = .ok a ∧ f a = .ok b := by
  cases x with
  | error e => cases h
  | ok a => exact ⟨a, rfl, h⟩

/-- What succeeds after a change succeeded before it. -/
theorem exists_of_map_eq_ok {ε α β : Type} {x : Except ε α} {f : α → β} {b : β}
    (h : x.map f = .ok b) : ∃ a, x = .ok a ∧ f a = b := by
  cases x with
  | error e => cases h
  | ok a => exact ⟨a, rfl, Except.ok.inj h⟩

variable {ρ : Type} {holds : ρ → Prop}

/-! ## One step -/

/-- What may change a record keeps a property of it. -/
def Keeps (holds : ρ → Prop) (f : ρ → Except UsageError ρ) : Prop :=
  ∀ r r', holds r → f r = .ok r' → holds r'

/-- An option keeps a property, whatever its value is. -/
def Effect.Keeps (holds : ρ → Prop) : Effect ρ → Prop
  | .flag _ set => ∀ r, holds r → holds (set r)
  | .value _ set => ∀ text, CommandLine.Keeps holds (set text)
  | .stop _ => True

/-- What is pending keeps a property. -/
def Pending.Keeps (holds : ρ → Prop) : Pending ρ → Prop
  | .none => True
  | .name _ set => ∀ text, CommandLine.Keeps holds (set text)
  | .complete take => CommandLine.Keeps holds take

/-- Every option and the operand keep a property. -/
structure Grammar.Keeps (holds : ρ → Prop) (g : Grammar ρ) : Prop where
  parameters : ∀ p ∈ g.parameters, p.effect.Keeps holds
  operand : ∀ set, g.operand = some set → ∀ text, CommandLine.Keeps holds (set text)

/-- A property holds of what was read, and will hold after what is pending. -/
structure Progress.Holds (holds : ρ → Prop) (s : Progress ρ) : Prop where
  record : holds s.record
  pending : s.pending.Keeps holds

/-- Setting an option at most once keeps what setting it keeps. -/
theorem Keeps.once {isGiven : ρ → Bool} {set : ρ → Except UsageError ρ}
    (keeps : Keeps holds set) : Keeps holds (once isGiven set) := by
  intro r r' h done
  rw [CommandLine.once] at done
  split at done
  · cases done
  · exact keeps r r' h done

/-- What holds so far holds of the record at the end of the command line. -/
theorem Progress.Holds.settle {s : Progress ρ} (h : s.Holds holds) {r : ρ}
    (done : s.settle = .ok r) : holds r := by
  rw [Progress.settle] at done
  have pending := h.pending
  split at done
  · cases done
    exact h.record
  · cases done
  · next take same =>
    rw [same] at pending
    exact pending _ _ h.record done

/-! ## Whole command lines -/

/-- What holds so far holds after a step that keeps it. -/
theorem Progress.Holds.andThen {s : Progress ρ} (h : s.Holds holds)
    {f : ρ → Except UsageError (Progress ρ)}
    (goesOn : ∀ r next, holds r → f r = .ok next → next.Holds holds) {next : Progress ρ}
    (read : s.andThen f = .ok next) : next.Holds holds := by
  obtain ⟨r, settled, read⟩ := exists_of_bind_eq_ok read
  exact goesOn r next (h.settle settled) read

namespace Grammar

end Grammar

/-! ## The options before a command -/

namespace GlobalOptions

/-- The options ask for a log format that this build has. -/
def IsLoggable (o : GlobalOptions) : Prop :=
  o.format ≠ some .journald

end GlobalOptions

/-- Options whose format is there give invocations whose format is. -/
theorem GlobalOptions.IsLoggable.invocation {o : GlobalOptions} (h : o.IsLoggable) (c : Command) :
    (o.invocation c).format ≠ .journald := by
  unfold GlobalOptions.invocation
  cases format : o.format with
  | none => exact LogFormat.noConfusion
  | some f =>
    rintro rfl
    exact h format

end IngestConsole.CommandLine
