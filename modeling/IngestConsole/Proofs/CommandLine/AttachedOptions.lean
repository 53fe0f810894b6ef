import IngestConsole.CommandLine.Grammar
import Mathlib.Data.List.Forall2

/-!
# Options with attached values

A flag, or an option with its value behind an equals sign, is read at once, whatever stands around
it.  A command line of such arguments only is read by taking them one after the other, and where they
exclude each other or do not touch each other their order does not matter.
-/

set_option autoImplicit false

namespace IngestConsole.CommandLine

variable {ρ : Type}

/-- The argument that gives an option a value. -/
def attached (name value : String) : String :=
  "--" ++ name ++ "=" ++ value

/-- The first equals sign ends the name, and the value may be any text. -/
theorem splitValue_append {name : List Char} (noSign : '=' ∉ name) (value : List Char) :
    splitValue (name ++ '=' :: value) = (String.ofList name, some (String.ofList value)) := by
  have before : ∀ c ∈ name, decide (c ≠ '=') = true := by
    intro c mem
    apply decide_eq_true
    rintro rfl
    exact noSign mem
  rw [splitValue, List.dropWhile_append_of_pos before, List.dropWhile_cons_of_neg (by decide),
    List.takeWhile_append_of_pos before, List.takeWhile_cons_of_neg (by decide), List.append_nil]

/-- An option with an attached value is read up to its first equals sign. -/
theorem Form.of_attached {name value : String} (noSign : '=' ∉ name.toList) :
    Form.of (attached name value) = .long name (some value) := by
  have text : (attached name value).toList = '-' :: '-' :: (name.toList ++ '=' :: value.toList) := by
    simp [attached]
  have split := splitValue_append noSign value.toList
  rw [String.ofList_toList, String.ofList_toList] at split
  unfold Form.of
  rw [text]
  split
  · next same => simp at same
  · next rest same =>
    cases same
    rw [split]
  · next other same =>
    cases same
    exact (other rfl).elim
  · next other _ => exact absurd rfl (other _)

namespace Grammar

variable {g : Grammar ρ}

/-- Wherever the argument stands, it changes the record by `take`. -/
def Takes (g : Grammar ρ) (arg : String) (take : ρ → Except UsageError ρ) : Prop :=
  ∀ s : Progress ρ, s.pending = .none → s.isTrailing = false →
    g.readArgument s arg = (take s.record).map s.withRecord

/-- Where no value is pending, reading goes on with the record. -/
theorem andThen_of_pending {s : Progress ρ} (settled : s.pending = .none)
    (f : ρ → Except UsageError (Progress ρ)) : s.andThen f = f s.record := by
  rw [Progress.andThen, Progress.settle, settled]
  rfl

/-- An option is found by its name. -/
theorem readArgument_long {p : Parameter ρ} {name : String}
    (found : g.parameters.find? (·.name == name) = some p) {arg : String} {value : Option String}
    (form : Form.of arg = .long name value) {s : Progress ρ} (leading : s.isTrailing = false) :
    g.readArgument s arg = readOption s p.effect value := by
  rw [readArgument, leading, form]
  dsimp only
  rw [if_neg Bool.false_ne_true, found]

/-- An option with its value attached sets it once, wherever it stands. -/
theorem takes_value {p : Parameter ρ} {name : String}
    (found : g.parameters.find? (·.name == name) = some p) {isGiven : ρ → Bool}
    {set : String → ρ → Except UsageError ρ} (effect : p.effect = .value isGiven set)
    (noSign : '=' ∉ name.toList) (value : String) :
    g.Takes (attached name value) (once isGiven (set value)) := by
  intro s settled leading
  rw [readArgument_long found (Form.of_attached noSign) leading, effect, readOption,
    andThen_of_pending settled]

/-- A flag is set once, wherever it stands. -/
theorem takes_flag {p : Parameter ρ} {name : String}
    (found : g.parameters.find? (·.name == name) = some p) {isGiven : ρ → Bool} {set : ρ → ρ}
    (effect : p.effect = .flag isGiven set) {arg : String} (form : Form.of arg = .long name none) :
    g.Takes arg (once isGiven fun r => .ok (set r)) := by
  intro s settled leading
  rw [readArgument_long found form leading, effect, readOption, andThen_of_pending settled]

/-! ## Runs -/

/-- After an error nothing more is taken. -/
theorem foldl_bind_error (e : UsageError) (takes : List (ρ → Except UsageError ρ)) :
    takes.foldl Except.bind (.error e) = .error e := by
  induction takes with
  | nil => rfl
  | cons take takes ih => exact ih

/-- Between such arguments nothing is pending. -/
theorem scan_of_takes (flat : g.subcommands = []) {args : List String}
    {takes : List (ρ → Except UsageError ρ)} (each : List.Forall₂ g.Takes args takes)
    {s : Progress ρ} (settled : s.pending = .none) (leading : s.isTrailing = false) :
    g.scan s args =
      (takes.foldl Except.bind (.ok s.record)).map fun r => (s.withRecord r, none) := by
  induction each generalizing s with
  | nil =>
    have same : s.withRecord s.record = s := by rw [Progress.withRecord, ← settled]
    rw [scan, List.foldl_nil, Except.map, same]
  | @cons arg take args takes one _ ih =>
    have command : (!s.isTrailing && !s.isWaiting && g.subcommands.contains arg) = false := by
      rw [flat, List.contains_nil, Bool.and_false]
    rw [scan, command, if_neg Bool.false_ne_true, one s settled leading, List.foldl_cons]
    cases taken : take s.record with
    | error e =>
      rw [Except.bind, taken, foldl_bind_error]
      rfl
    | ok r =>
      rw [Except.bind, taken]
      exact ih rfl leading

/-- A command line of arguments that each do one thing does these things in turn. -/
theorem read_of_takes (flat : g.subcommands = []) {args : List String}
    {takes : List (ρ → Except UsageError ρ)} (each : List.Forall₂ g.Takes args takes) (r : ρ) :
    g.read r args = takes.foldl Except.bind (.ok r) := by
  rw [read, scan_of_takes flat each rfl rfl]
  cases takes.foldl Except.bind (.ok r) <;> rfl

end Grammar

/-! ## Orders -/

/-- Options that do not touch each other commute. -/
theorem once_comm {isGiven isGiven' : ρ → Bool} {put put' : ρ → ρ}
    (apart : ∀ r, isGiven' (put r) = isGiven' r) (apart' : ∀ r, isGiven (put' r) = isGiven r)
    (comm : ∀ r, put' (put r) = put (put' r)) (r : ρ) :
    (once isGiven (fun r => .ok (put r)) r).bind (once isGiven' fun r => .ok (put' r)) =
      (once isGiven' (fun r => .ok (put' r)) r).bind (once isGiven fun r => .ok (put r)) := by
  unfold once
  cases given : isGiven r with
  | true =>
    cases given' : isGiven' r with
    | true => rfl
    | false => simp [Except.bind, apart', given]
  | false =>
    cases given' : isGiven' r with
    | true => simp [Except.bind, apart, given']
    | false => simp [Except.bind, apart, apart', given, given', comm]

/-- An option is not taken twice, in no order. -/
theorem once_comm_self {isGiven : ρ → Bool} {put put' : ρ → ρ}
    (given : ∀ r, isGiven (put r) = true) (given' : ∀ r, isGiven (put' r) = true) (r : ρ) :
    (once isGiven (fun r => .ok (put r)) r).bind (once isGiven fun r => .ok (put' r)) =
      (once isGiven (fun r => .ok (put' r)) r).bind (once isGiven fun r => .ok (put r)) := by
  unfold once
  cases isGiven r with
  | true => rfl
  | false => simp [Except.bind, given, given']

end IngestConsole.CommandLine
