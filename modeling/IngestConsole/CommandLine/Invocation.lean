import IngestConsole.CommandLine.Grammar
import IngestConsole.Service.Settings
import IngestConsole.Table.Filter
import IngestConsole.Text.Blank

/-!
# Invocations

The commands, and the command lines that stand for them.  Options for the connection and for
logging stand before the name of the command; what is not given there is taken from the environment,
and last from the defaults.
-/

set_option autoImplicit false

namespace IngestConsole.CommandLine

open Logging Numeral Service Table Wire

/-- Which tasks are listed, and how. -/
structure TaskQuery where
  name : Option String := none
  kind : Option String := none
  status : Option String := none
  sort : Option SortField := none
  isDescending : Bool := false
  page : UInt64 := 1
  pageSize : PageSize := .twenty
  deriving DecidableEq, Repr

/-- The filter of a query. -/
def TaskQuery.filter (q : TaskQuery) : FilterPatch :=
  { name := q.name, kind := q.kind, status := q.status }

/-- What the service can be told to read again. -/
inductive ReloadTarget
  | tasks
  | config
  deriving DecidableEq, Repr

namespace ReloadTarget

/-- Every target. -/
def all : List ReloadTarget :=
  [tasks, config]

/-- The name of a target. -/
def name : ReloadTarget → String
  | tasks => "tasks"
  | config => "config"

end ReloadTarget

/-- A command of the console. -/
inductive Command
  | overview (watch : Bool)
  | tasks (query : TaskQuery)
  | status (task : String) (watch : Bool)
  | task (name : String)
  | config
  | dump (kind : DumpKind)
  | log (start : UInt64) (errorsOnly : Bool)
  | reload (target : ReloadTarget)
  deriving DecidableEq, Repr

/-- A command with its connection and its logging. -/
structure Invocation where
  url : String
  /-- How long a response may take, in milliseconds. -/
  timeout : UInt64
  filter : LogFilter
  format : LogFormat
  command : Command
  deriving DecidableEq

/-! ## Values -/

/-- Refuses a value. -/
def refuse {α ε : Type} (cause : ε → ValueError) (r : Except ε α) : Except UsageError α :=
  r.mapError fun e => .refusedValue (cause e)

/-- Reads a count. -/
def readCount (s : String) : Except UsageError UInt64 :=
  refuse .number (readUInt64 s)

/-- Reads a page size; blanks around it do not matter. -/
def readPageSize (s : String) : Except UsageError PageSize :=
  match readUInt64 (String.ofList (Text.trim s.toList)) with
  | .error _ => .error (.refusedValue (.notANumber s))
  | .ok n => refuse .pageSize (PageSize.ofSize n.toNat)

/-- Reads the name of a target. -/
def readTarget (s : String) : Except UsageError ReloadTarget :=
  match ReloadTarget.all.find? (·.name == s) with
  | some t => .ok t
  | none => .error .invalidValue

/-- An option whose value is kept once it is read. -/
def keep {ρ α : Type} (get : ρ → Option α) (read : String → Except UsageError α)
    (put : α → ρ → ρ) : Effect ρ :=
  .value (fun r => (get r).isSome) fun s r => (read s).map (put · r)

/-! ## Commands -/

/-- The options of a task query that were given. -/
structure QueryOptions where
  name : Option String := none
  kind : Option String := none
  status : Option String := none
  sort : Option SortField := none
  isDescending : Bool := false
  page : Option UInt64 := none
  pageSize : Option PageSize := none
  deriving DecidableEq, Repr

/-- The options of a task query. -/
def queryGrammar : Grammar QueryOptions where
  parameters :=
    [{ name := "name", effect := keep (·.name) .ok fun v r => { r with name := some v } },
     { name := "type", effect := keep (·.kind) .ok fun v r => { r with kind := some v } },
     { name := "status", effect := keep (·.status) .ok fun v r => { r with status := some v } },
     { name := "sort"
       effect := keep (·.sort) (fun s => refuse .sortField (SortField.ofText s))
         fun v r => { r with sort := some v } },
     { name := "desc", effect := .flag (·.isDescending) fun r => { r with isDescending := true } },
     { name := "page", effect := keep (·.page) readCount fun v r => { r with page := some v } },
     { name := "page-size"
       effect := keep (·.pageSize) readPageSize fun v r => { r with pageSize := some v } },
     helpParameter]

/-- A query with its defaults; a descending order needs a field to sort by. -/
def QueryOptions.query (o : QueryOptions) : Except UsageError TaskQuery :=
  let default : TaskQuery := {}
  if o.isDescending && o.sort.isNone then .error .missingArgument
  else
    .ok
      { name := o.name, kind := o.kind, status := o.status, sort := o.sort
        isDescending := o.isDescending, page := o.page.getD default.page
        pageSize := o.pageSize.getD default.pageSize }

/-- The operand of a command and one of its flags. -/
structure OperandAndFlag (α : Type) where
  operand : Option α := none
  flag : Bool := false

/-- A grammar with an operand. -/
def operandGrammar {α : Type} (read : String → Except UsageError α)
    (parameters : List (Parameter (OperandAndFlag α))) : Grammar (OperandAndFlag α) where
  parameters := parameters ++ [helpParameter]
  operand := some fun s r => (read s).map fun v => { r with operand := some v }

/-- The flag that asks to watch. -/
def watchParameter {α : Type} : Parameter (OperandAndFlag α) where
  name := "watch"
  effect := .flag (·.flag) fun r => { r with flag := true }

/-- Reads the arguments of a command whose operand is required. -/
def readOperandAndFlag {α : Type} (read : String → Except UsageError α)
    (parameters : List (Parameter (OperandAndFlag α))) (args : List String) :
    Except UsageError (α × Bool) :=
  match (operandGrammar read parameters).read {} args with
  | .error e => .error e
  | .ok r =>
    match r.operand with
    | some v => .ok (v, r.flag)
    | none => .error .missingArgument

/-- The options of a log command that were given. -/
structure LogOptions where
  start : Option UInt64 := none
  errorsOnly : Bool := false

/-- The options of a log command. -/
def logGrammar : Grammar LogOptions where
  parameters :=
    [{ name := "from", effect := keep (·.start) readCount fun v r => { r with start := some v } },
     { name := "errors", effect := .flag (·.errorsOnly) fun r => { r with errorsOnly := true } },
     helpParameter]

/-- A grammar with a flag to watch and no operand. -/
def watchGrammar : Grammar (OperandAndFlag Unit) where
  parameters := [watchParameter, helpParameter]

/-- A grammar without options. -/
def bareGrammar : Grammar Unit where
  parameters := [helpParameter]

/-- The names of the commands. -/
def commandNames : List String :=
  ["overview", "tasks", "status", "task", "config", "debug", "log", "reload", "help"]

/-- Reads a request for help on a command; only the command itself may be named. -/
def readHelp : List String → UsageError
  | [] => .helpRequested
  | [name] => if commandNames.contains name then .helpRequested else .unknownCommand
  | _ => .unknownCommand

/-- Reads the arguments of a command. -/
def readCommand (name : String) (args : List String) : Except UsageError Command :=
  match name with
  | "overview" => (watchGrammar.read {} args).map fun r => .overview r.flag
  | "tasks" => ((queryGrammar.read {} args).bind QueryOptions.query).map .tasks
  | "status" => (readOperandAndFlag .ok [watchParameter] args).map fun r => .status r.1 r.2
  | "task" => (readOperandAndFlag .ok [] args).map fun r => .task r.1
  | "config" => (bareGrammar.read () args).map fun _ => .config
  | "debug" =>
    (readOperandAndFlag (fun s => refuse .dumpKind (DumpKind.ofName s)) [] args).map
      fun r => .dump r.1
  | "log" => (logGrammar.read {} args).map fun r => .log (r.start.getD 0) r.errorsOnly
  | "reload" => (readOperandAndFlag readTarget [] args).map fun r => .reload r.1
  | "help" => .error (readHelp args)
  | _ => .error .unknownCommand

/-! ## Command lines -/

/-- The options before a command that were given. -/
structure GlobalOptions where
  url : Option String := none
  timeout : Option UInt64 := none
  filter : Option LogFilter := none
  format : Option LogFormat := none

namespace GlobalOptions

/-- Nothing was given. -/
def isEmpty (o : GlobalOptions) : Bool :=
  o.url.isNone && o.timeout.isNone && o.filter.isNone && o.format.isNone

/-- The option for the address of the service. -/
def urlParameter : Parameter GlobalOptions where
  name := "url"
  effect := keep (·.url) .ok fun v r => { r with url := some v }

/-- The option for the time that a response may take. -/
def timeoutParameter : Parameter GlobalOptions where
  name := "timeout-ms"
  effect := keep (·.timeout) readCount fun v r => { r with timeout := some v }

/-- The option for the log filter. -/
def filterParameter : Parameter GlobalOptions where
  name := "log-level"
  effect := keep (·.filter) (fun s => refuse .logging (LogFilter.ofText s))
    fun v r => { r with filter := some v }

/-- The option for the format of log lines. -/
def formatParameter : Parameter GlobalOptions where
  name := "log-format"
  effect := keep (·.format) (fun s => refuse .logging (LogFormat.ofName s))
    fun v r => { r with format := some v }

/-- The options, each with the variable that it may be taken from. -/
def sources : List (String × Parameter GlobalOptions) :=
  [("SINKER_URL", urlParameter), ("SINKER_TIMEOUT_MS", timeoutParameter),
   ("SINKER_LOG_LEVEL", filterParameter), ("SINKER_LOG_FORMAT", formatParameter)]

/-- Takes an option from its variable, unless it was given. -/
def takeVariable (environment : String → Option String) (o : GlobalOptions)
    (v : String × Parameter GlobalOptions) : Except UsageError GlobalOptions :=
  match v.2.effect, environment v.1 with
  | .value isGiven set, some text => if isGiven o then .ok o else set text o
  | _, _ => .ok o

/-- Takes the options that were not given from the environment. -/
def withEnvironment (environment : String → Option String) (o : GlobalOptions) :
    Except UsageError GlobalOptions :=
  sources.foldlM (takeVariable environment) o

end GlobalOptions

/-- The options before a command, and the commands. -/
def globalGrammar : Grammar GlobalOptions where
  parameters := GlobalOptions.sources.map (·.2) ++ [helpParameter, versionParameter]
  subcommands := commandNames

/-- The log filter unless told otherwise. -/
def defaultFilter : LogFilter where
  text := "warn"
  isValid := by decide +kernel

/-- An invocation with its defaults. -/
def GlobalOptions.invocation (o : GlobalOptions) (command : Command) : Invocation where
  url := o.url.getD defaultAddress
  timeout := o.timeout.getD defaultRequestTimeout
  filter := o.filter.getD defaultFilter
  format := o.format.getD .text
  command := command

/-- Reads a command line.  A command is read to its end before the options before it are. -/
def Invocation.parse (environment : String → Option String) (args : List String) :
    Except UsageError Invocation := do
  let (progress, rest) ← globalGrammar.scan { record := {} } args
  let command ← match rest with
    | some (name, args) => (readCommand name args).map some
    | none => .ok none
  let given ← progress.settle
  let options ← given.withEnvironment environment
  match command with
  | some command => pure (options.invocation command)
  | none => .error (if options.isEmpty then .nothingGiven else .missingCommand)

end IngestConsole.CommandLine
