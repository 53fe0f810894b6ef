import IngestConsole.CommandLine.UsageError

/-!
# Grammars of command lines

A grammar lists the options that a command takes, the argument that it may have beside them, and its
subcommands.  Arguments are read from left to right.  The value of an option may be attached to its
name with an equals sign, and is then taken at once; else it is the next argument, and it is taken
when the argument after it is read or the arguments end.  Behind `--` no argument is an option.
-/

set_option autoImplicit false

namespace IngestConsole.CommandLine

variable {ρ : Type}

/-- What an option does to what was read so far, a `ρ`. -/
inductive Effect (ρ : Type)
  | flag (isGiven : ρ → Bool) (set : ρ → ρ)
  | value (isGiven : ρ → Bool) (set : String → ρ → Except UsageError ρ)
  /-- Ends the reading. -/
  | stop (e : UsageError)

/-- An option by its long name. -/
structure Parameter (ρ : Type) where
  name : String
  /-- A letter that stands for the name after a single dash. -/
  letter : Option Char := none
  effect : Effect ρ

/-- What a command may be given. -/
structure Grammar (ρ : Type) where
  parameters : List (Parameter ρ)
  /-- Takes the argument that is no option. -/
  operand : Option (String → ρ → Except UsageError ρ) := none
  subcommands : List String := []

/-- Sets an option unless it was set before. -/
def once (isGiven : ρ → Bool) (set : ρ → Except UsageError ρ) (r : ρ) : Except UsageError ρ :=
  if isGiven r then .error .repeatedOption else set r

/-- What was read but is not taken yet. -/
inductive Pending (ρ : Type)
  | none
  /-- An option that waits for its value. -/
  | name (isGiven : ρ → Bool) (set : String → ρ → Except UsageError ρ)
  /-- An option with its value, or an operand. -/
  | complete (take : ρ → Except UsageError ρ)

/-- How far a command line was read. -/
structure Progress (ρ : Type) where
  record : ρ
  pending : Pending ρ := .none
  hasOperand : Bool := false
  /-- No argument from here on is an option. -/
  isTrailing : Bool := false

namespace Progress

/-- Takes what is pending; an option that waits for its value has none. -/
def settle (s : Progress ρ) : Except UsageError ρ :=
  match s.pending with
  | .none => .ok s.record
  | .name _ _ => .error .invalidValue
  | .complete take => take s.record

/-- Takes what is pending, and then goes on with `f`. -/
def andThen (s : Progress ρ) (f : ρ → Except UsageError (Progress ρ)) :
    Except UsageError (Progress ρ) :=
  s.settle.bind f

/-- The same place with another record and nothing pending. -/
def withRecord (s : Progress ρ) (record : ρ) : Progress ρ :=
  { s with record, pending := .none }

/-- An option waits for its value. -/
def isWaiting (s : Progress ρ) : Bool :=
  match s.pending with
  | .name _ _ => true
  | _ => false

end Progress

/-- The form of an argument. -/
inductive Form
  | separator
  /-- Two dashes, a name, and a value behind an equals sign. -/
  | long (name : String) (value : Option String)
  /-- A dash and letters, of which the first is given. -/
  | short (letter : Char)
  | plain
  deriving DecidableEq, Repr

/-- A name up to an equals sign, and what follows the sign. -/
def splitValue (s : List Char) : String × Option String :=
  match s.dropWhile (· ≠ '=') with
  | [] => (String.ofList s, none)
  | _ :: value => (String.ofList (s.takeWhile (· ≠ '=')), some (String.ofList value))

/-- The form of an argument. -/
def Form.of (arg : String) : Form :=
  match arg.toList with
  | ['-', '-'] => .separator
  | '-' :: '-' :: rest =>
    let (name, value) := splitValue rest
    .long name value
  | '-' :: letter :: _ => .short letter
  | _ => .plain

namespace Grammar

/-- Reads an option, with its value if one is attached. -/
def readOption (s : Progress ρ) (effect : Effect ρ) (value : Option String) :
    Except UsageError (Progress ρ) :=
  match effect, value with
  | .value isGiven set, none =>
    s.andThen fun r => .ok { s.withRecord r with pending := .name isGiven set }
  | .value isGiven set, some v =>
    s.andThen fun r => (once isGiven (set v) r).map s.withRecord
  | .flag isGiven set, none =>
    s.andThen fun r => (once isGiven (fun r => .ok (set r)) r).map s.withRecord
  | .stop e, none => s.andThen fun _ => .error e
  | _, some _ => .error .unexpectedValue

/-- The error for an argument that a grammar has no place for. -/
def misplaced (g : Grammar ρ) (s : Progress ρ) (arg : String) : UsageError :=
  if g.subcommands.isEmpty then .unknownArgument
  else if s.isTrailing && g.subcommands.contains arg then .unknownArgument
  else .unknownCommand

/-- Reads an argument that is no option. -/
def readOperand (g : Grammar ρ) (s : Progress ρ) (arg : String) :
    Except UsageError (Progress ρ) :=
  match g.operand, s.hasOperand with
  | some set, false =>
    s.andThen fun r =>
      .ok { s.withRecord r with pending := .complete (set arg), hasOperand := true }
  | _, _ => .error (g.misplaced s arg)

/-- Reads an argument that is no subcommand. -/
def readArgument (g : Grammar ρ) (s : Progress ρ) (arg : String) :
    Except UsageError (Progress ρ) :=
  if s.isTrailing then g.readOperand s arg
  else
    match Form.of arg with
    | .separator => .ok { s with isTrailing := true }
    | .long name value =>
      match g.parameters.find? (·.name == name) with
      | some p => readOption s p.effect value
      | none => .error .unknownArgument
    | .short letter =>
      match g.parameters.find? (·.letter == some letter) with
      | some p => readOption s p.effect none
      | none => .error .unknownArgument
    | .plain =>
      match s.pending with
      | .name isGiven set => .ok { s with pending := .complete (once isGiven (set arg)) }
      | _ => g.readOperand s arg

/-- Reads arguments up to the end or to a subcommand, which is given with what follows it. -/
def scan (g : Grammar ρ) (s : Progress ρ) :
    List String → Except UsageError (Progress ρ × Option (String × List String))
  | [] => .ok (s, none)
  | arg :: rest =>
    if !s.isTrailing && !s.isWaiting && g.subcommands.contains arg then
      .ok (s, some (arg, rest))
    else
      match g.readArgument s arg with
      | .ok next => g.scan next rest
      | .error e => .error e

/-- Reads all arguments of a command without subcommands. -/
def read (g : Grammar ρ) (record : ρ) (args : List String) : Except UsageError ρ :=
  match g.scan { record } args with
  | .ok (s, _) => s.settle
  | .error e => .error e

end Grammar

/-- The parameter that asks for help. -/
def helpParameter : Parameter ρ where
  name := "help"
  letter := some 'h'
  effect := .stop .helpRequested

/-- The parameter that asks for the version. -/
def versionParameter : Parameter ρ where
  name := "version"
  letter := some 'V'
  effect := .stop .versionRequested

end IngestConsole.CommandLine
