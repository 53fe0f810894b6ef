import IngestConsole.CommandLine.Invocation
import IngestConsole.Dashboard.Session
import IngestConsole.Display.Panel
import IngestConsole.Json.Printer
import IngestConsole.Table.Layout

/-!
# Running commands

What a command prints.  A command that fails prints nothing, and so does one that is stopped by an
addition that overflows; watching a panel prints it again after every poll that brings something.
-/

set_option autoImplicit false

namespace IngestConsole.CommandLine

open Calendar Dashboard Display Json Logging Numeral Service Table Wire

/-- Why a command fails. -/
inductive CommandError
  | call (e : CallError)
  | noProcessInfo
  | noTasks
  | noConfig
  | noDump (kind : DumpKind)
  /-- An addition overflowed, and the program was stopped at once. -/
  | overflow
  deriving DecidableEq, Repr

/-- The wording of a failed command. -/
def CommandError.message (w : Wording) : CommandError → String
  | call e => e.message w
  | noProcessInfo => "process info unavailable"
  | noTasks => "failed to fetch task list"
  | noConfig => "failed to fetch configuration"
  | noDump kind => "failed to fetch " ++ kind.name ++ " dump"
  | overflow => "attempt to add with overflow"

/-- The wording of what caused a failed command. -/
def CommandError.causes (w : Wording) : CommandError → List String
  | call e => e.causes w
  | _ => []

/-- What a command prints, or why it fails. -/
abbrev Printed := Except CommandError String

/-- Prints the answer to a call. -/
def printAnswer (e : Endpoint) (text : e.Answer → String) : Program Printed := do
  match ← Program.ask e with
  | .ok answer => pure (.ok (text answer))
  | .error f => pure (.error (.call f))

/-- The view of a table under a query. -/
def TaskQuery.view (q : TaskQuery) (v : View) : View :=
  let filtered := v.setFilter q.filter
  let sorted := match q.sort with
    | none => filtered
    | some field =>
      let ascending := filtered.setSort field
      if q.isDescending then ascending.setSort field else ascending
  (sorted.setPageSize q.pageSize).setPage q.page.toNat

/-- Prints the process info, after everything that the dashboard shows at its start was loaded. -/
def overviewProgram (offset : Offset) : Program Printed := do
  let _ ← Program.load
  match (← Program.dashboard).processInfo with
  | some info => pure (.ok (overviewPanel info offset))
  | none => pure (.error .noProcessInfo)

/-- Prints the tasks of a query. -/
def tasksProgram (query : TaskQuery) (offset : Offset) : Program Printed := do
  if ← Program.refreshTasks then
    Program.modify fun d => { d with tasks := query.view d.tasks }
    let v := (← Program.dashboard).tasks
    pure (.ok (tableText v.page v.state.sort offset))
  else pure (.error .noTasks)

/-- Prints the configuration and where it comes from. -/
def configProgram : Program Printed := do
  if ← Program.refreshConfig then
    let d ← Program.dashboard
    match d.config with
    | some doc => pure (.ok (configPanel doc d.launchOptions))
    | none => pure (.error .noConfig)
  else pure (.error .noConfig)

/-- Prints a dump. -/
def dumpProgram (kind : DumpKind) : Program Printed := do
  if ← Program.refreshDump kind then
    pure (.ok ((← Program.dashboard).dumpText kind ++ "\n"))
  else pure (.error (.noDump kind))

/-- Prints a window of the log. -/
def logProgram (start : UInt64) (errorsOnly : Bool) : Program Printed := do
  match ← Program.ask (.log start errorsOnly) with
  | .error f => pure (.error (.call f))
  | .ok page =>
    match logPanel? page start with
    | some text => pure (.ok text)
    | none => pure (.error .overflow)

/-- Has the service read something again. -/
def reloadProgram : ReloadTarget → Program Printed
  | .tasks => do
    match ← Program.reloadTasks with
    | .error e => pure (.error (.call e))
    | .ok _ => do
      let count := (← Program.dashboard).tasks.tasks.length
      pure (.ok ("tasks reloaded, " ++ natText count ++ " task(s) running\n"))
  | .config => do
    match ← Program.reloadConfig with
    | .error e => pure (.error (.call e))
    | .ok _ => pure (.ok "configuration reloaded\n")

/-- What a command prints first. -/
def Command.program (offset : Offset) : Command → Program Printed
  | .overview _ => overviewProgram offset
  | .tasks query => tasksProgram query offset
  | .status name false =>
    printAnswer (.taskStatus name) fun s => statusPanel name (some s) offset
  | .status name true => pure (.ok (statusPanel name none offset))
  | .task name => printAnswer (.taskConfig name) fun v => String.ofList v.pretty ++ "\n"
  | .config => configProgram
  | .dump kind => dumpProgram kind
  | .log start errorsOnly => logProgram start errorsOnly
  | .reload target => reloadProgram target

/-! ## Watching -/

/-- What watching a panel needs to know. -/
structure Watch where
  /-- The time between two polls, in milliseconds. -/
  period : Nat
  /-- How often what is watched changed. -/
  changes : Dashboard → Nat
  /-- The panel, once there is something to show. -/
  panel? : Dashboard → Option String

/-- What a command watches. -/
def Command.watch? (offset : Offset) (d : Dashboard) : Command → Option Watch
  | .overview true => some
    { period := d.overviewPeriod
      changes := (·.processInfoChanges)
      panel? := fun d => d.processInfo.map (overviewPanel · offset) }
  | .status name true => some
    { period := d.status.period
      changes := (·.status.changes)
      panel? := fun d => d.status.snapshot.map fun s => statusPanel name (some s) offset }
  | _ => none

/-- What is printed after a poll: an empty line and the panel, if something came in. -/
def Watch.update (w : Watch) (before after : Dashboard) : String :=
  if w.changes after = w.changes before then ""
  else (w.panel? after).elim "" ("\n" ++ ·)

/-- What is printed while a number of polls are made. -/
def Watch.run {β : Type} (w : Watch) (b : Backend β) : Nat → Session β → String × Session β
  | 0, session => ("", session)
  | polls + 1, session =>
    let next := session.sleep b w.period
    let (text, last) := w.run b polls next
    (w.update session.dashboard next.dashboard ++ text, last)

/-- Starts the timer of what a command watches. -/
def Command.startTimer {β : Type} (session : Session β) : Command → Session β
  | .overview true => session.startOverview
  | .status name true => session.openStatus name
  | _ => session

/-- What a command prints, when the user stops watching after a number of polls. -/
def Command.run {β : Type} (c : Command) (b : Backend β) (offset : Offset) (polls : Nat)
    (session : Session β) : Printed × Session β :=
  match Session.run b (c.program offset) session with
  | (.error e, ended) => (.error e, ended)
  | (.ok first, ended) =>
    match c.watch? offset ended.dashboard with
    | none => (.ok first, ended)
    | some w =>
      let (rest, last) := w.run b polls (c.startTimer ended)
      (.ok (first ++ rest), last)

/-! ## Whole runs -/

/-- Why the console fails. -/
inductive Failure
  | usage (e : UsageError)
  | logging (e : LoggingError)
  | connect (e : ConnectError)
  | command (e : CommandError)
  deriving DecidableEq, Repr

namespace Failure

/-- A text whose lines, after the first, start with as many blanks as are given. -/
def hanging (blanks : Nat) (s : String) : String :=
  String.ofList (s.toList.flatMap fun c => if c = '\n' then c :: List.replicate blanks ' ' else [c])

/-- A message with what caused it; several causes are numbered. -/
def withCauses (message : String) : List String → String
  | [] => message
  | [cause] => message ++ "\n\nCaused by:\n    " ++ hanging 4 cause
  | causes =>
    let numbered := causes.zipIdx.map fun c =>
      "\n" ++ String.ofList (List.replicate (5 - (natText c.2).length) ' ') ++ natText c.2 ++ ": "
        ++ hanging 7 c.1
    message ++ "\n\nCaused by:" ++ String.join numbered

/-- What the console reports of a failure.  Wrong usage is explained elsewhere, and a program that was
stopped reports nothing. -/
def report? (w : Wording) : Failure → Option String
  | usage _ => none
  | logging e => some (withCauses "failed to initialize logger" [e.message])
  | connect e => some (withCauses "invalid console configuration" [e.message w])
  | command .overflow => none
  | command e => some (withCauses (e.message w) (e.causes w))

/-- The exit code of a failure. -/
def exitCode : Failure → Nat
  | usage e => if e.isAnswer then 0 else 2
  | command .overflow => 101
  | _ => 1

end Failure

/-- The settings of an invocation. -/
def Invocation.settings (i : Invocation) : Settings :=
  { address := i.url, requestTimeout := i.timeout }

/-- Sets up logging and connects, as an invocation asks for. -/
def Invocation.connect (i : Invocation) : Except Failure Client :=
  match LogSettings.install { format := i.format, filter := i.filter } false with
  | .error e => .error (.logging e)
  | .ok () => i.settings.connect.mapError .connect

/-- Runs an invocation against a service that gives the response `respond` to each request: what is
printed, and the requests in the order in which they were sent. -/
def Invocation.run (i : Invocation) (respond : Request → Response) (offset : Offset)
    (polls : Nat) : Except Failure String × List Request :=
  match i.connect with
  | .error f => (.error f, [])
  | .ok client =>
    let session := Session.start i.settings []
    let (printed, ended) := i.command.run (client.backend respond) offset polls session
    (printed.mapError .command, ended.backend.reverse)

/-- Runs a command line. -/
def runArguments (environment : String → Option String) (args : List String)
    (respond : Request → Response) (offset : Offset) (polls : Nat) :
    Except Failure String × List Request :=
  match Invocation.parse environment args with
  | .error e => (.error (.usage e), [])
  | .ok i => i.run respond offset polls

end IngestConsole.CommandLine
