import IngestConsole.Service.CallError
import IngestConsole.Wire.ConfigDocument
import IngestConsole.Wire.LaunchOptions
import IngestConsole.Wire.LogPage
import IngestConsole.Wire.ProcessInfo
import IngestConsole.Wire.StatusSnapshot
import IngestConsole.Wire.Task

/-!
# Endpoints

The calls that the service answers, and the type of the answer to each of them.
-/

set_option autoImplicit false

namespace IngestConsole.Service

open Json Wire

/-- A call that the service answers. -/
inductive Endpoint
  | processInfo
  | tasks
  | taskStatus (task : String)
  | config
  | launchOptions
  /-- Asks the service to read its tasks again. -/
  | reloadTasks
  /-- Asks the service to read its configuration again. -/
  | reloadConfig
  | dump (kind : DumpKind)
  /-- The log lines from a line on. -/
  | log (start : UInt64) (errorsOnly : Bool)
  | taskConfig (task : String)
  deriving DecidableEq, Repr

namespace Endpoint

/-- What a successful call gives. -/
abbrev Answer : Endpoint → Type
  | processInfo => ProcessInfo
  | tasks => TaskList
  | taskStatus _ => StatusSnapshot
  | config => ConfigDocument
  | launchOptions => LaunchOptions
  | reloadTasks => Unit
  | reloadConfig => Unit
  | dump _ => String
  | log _ _ => LogPage
  | taskConfig _ => Value

/-- What a call is about, for messages. -/
def subject : Endpoint → String
  | processInfo => "proc info"
  | tasks => "task list"
  | taskStatus _ => "task status"
  | config => "config"
  | launchOptions => "cmdline"
  | reloadTasks => "task refresh"
  | reloadConfig => "config refresh"
  | dump kind => kind.name
  | log _ _ => "log page"
  | taskConfig _ => "task config"

end Endpoint

/-- How a call ends. -/
abbrev Endpoint.Result (e : Endpoint) : Type :=
  Except CallError e.Answer

/-- A call and how it ended. -/
structure Reply where
  endpoint : Endpoint
  result : endpoint.Result

/-- Whether a call succeeded. -/
def Reply.isOk (r : Reply) : Bool :=
  match r.result with
  | .ok _ => true
  | .error _ => false

end IngestConsole.Service
