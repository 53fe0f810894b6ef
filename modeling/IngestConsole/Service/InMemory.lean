import IngestConsole.Service.Backend

/-!
# A service in memory

A stand-in for the service.  It answers from values that it is given; what it was not given it
refuses.
-/

set_option autoImplicit false

namespace IngestConsole.Service

open Json Wire

/-- The values that a service in memory answers from, and the calls that it got. -/
structure InMemory where
  processInfo : Option ProcessInfo := none
  tasks : Option (List Task) := none
  config : Option ConfigDocument := none
  launchOptions : Option LaunchOptions := none
  statuses : List (String × StatusSnapshot) := []
  /-- How many milliseconds the status of a task takes. -/
  statusDelays : List (String × Nat) := []
  dumps : List (DumpKind × String) := []
  logLines : List String := []
  rejectsReloads : Bool := false
  /-- The calls, the latest first. -/
  calls : List Endpoint := []

namespace InMemory

/-- The refusal of a call. -/
def refusal : CallError :=
  .envelope (.rejected "9999" "backend failure")

/-- A value that is there, else a refusal. -/
def orRefused {α : Type} : Option α → Except CallError α
  | some a => .ok a
  | none => .error refusal

/-- The configuration of a task, as far as it is known here. -/
def taskConfig (t : Task) : Value :=
  .ofMembers [("name", .text t.name), ("topic", .text t.topic)]

/-- The answer to a call. -/
def answer (s : InMemory) : (e : Endpoint) → e.Result
  | .processInfo => orRefused s.processInfo
  | .tasks => orRefused (s.tasks.map fun tasks => { tasks, total := .ofNat tasks.length })
  | .taskStatus task => orRefused (s.statuses.lookup task)
  | .config => orRefused s.config
  | .launchOptions => orRefused s.launchOptions
  | .reloadTasks => if s.rejectsReloads then .error refusal else .ok ()
  | .reloadConfig => if s.rejectsReloads then .error refusal else .ok ()
  | .dump kind => orRefused (s.dumps.lookup kind)
  | .log start _ =>
    .ok { total := .ofNat s.logLines.length, lines := s.logLines.drop start.toNat }
  | .taskConfig task =>
    orRefused (((s.tasks.getD []).find? (·.name == task)).map taskConfig)

/-- The time that a call takes. -/
def delay (s : InMemory) : Endpoint → Nat
  | .taskStatus task => (s.statusDelays.lookup task).getD 0
  | _ => 0

/-- The service as a backend. -/
def backend : Backend InMemory where
  call e s := (s.answer e, { s with calls := e :: s.calls })
  delay e s := s.delay e

end InMemory

end IngestConsole.Service
