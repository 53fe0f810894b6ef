import IngestConsole.CommandLine.Run
import IngestConsole.Proofs.CommandLine.Options
import IngestConsole.Proofs.Dashboard.Idle
import IngestConsole.Proofs.Service.Classification

/-!
# How a command ends

A command that does not watch succeeds exactly if the answers that it needs are good, and a command
that fails prints nothing and says why.  Which requests it sends is settled by the command alone,
but for a reload: that fetches again exactly what was reloaded, once the service has agreed.
-/

set_option autoImplicit false

namespace IngestConsole.CommandLine

open Calendar Dashboard Display Logging Service Wire

/-! ## What is observed of a run -/

/-- The exit code of a run. -/
def exitCode : Except Failure String → Nat
  | .ok _ => 0
  | .error f => f.exitCode

/-- What a run writes to the standard output; wrong usage is explained elsewhere. -/
def standardOutput : Except Failure String → String
  | .ok text => text
  | .error _ => ""

/-- What a run reports as an error, where the libraries word what they refuse as `w` says. -/
def errorText (w : Wording) : Except Failure String → String
  | .ok _ => ""
  | .error f => (f.report? w).getD ""

namespace Command

/-- The command goes on until the user stops it. -/
def Watches : Command → Prop
  | overview watch => watch = true
  | status _ watch => watch = true
  | _ => False

/-- The calls whose answers must be good. -/
def needs : Command → List Endpoint
  | overview _ => [.processInfo]
  | tasks _ => [.tasks]
  | status name _ => [.taskStatus name]
  | task name => [.taskConfig name]
  | config => [.config, .launchOptions]
  | dump kind => [.dump kind]
  | log start errorsOnly => [.log start errorsOnly]
  | reload .tasks => [.reloadTasks]
  | reload .config => [.reloadConfig]

/-- The calls that are made in any case. -/
def calls : Command → List Endpoint
  | overview _ => [.processInfo, .config, .launchOptions]
  | c => c.needs

end Command

section Ends

variable {answer : (e : Endpoint) → e.Result}

/-- There is no panel of a window exactly if it ends beyond the line numbers. -/
theorem logPanel?_eq_none_iff {page : LogPage} {start : UInt64} :
    logPanel? page start = none ↔ 2 ^ 64 ≤ start.toNat + page.lines.length := by
  simp [logPanel?]

end Ends

/-! ## Whole runs -/

/-- A command that does not watch has nothing to watch. -/
theorem Command.watch?_eq_none {c : Command} (unwatched : ¬c.Watches) (offset : Offset)
    (d : Dashboard) : c.watch? offset d = none := by
  cases c with
  | overview watch =>
    cases watch with
    | false => rfl
    | true => exact absurd rfl unwatched
  | status name watch =>
    cases watch with
    | false => rfl
    | true => exact absurd rfl unwatched
  | _ => rfl

/-- A command that does not watch is over with what it prints first. -/
theorem Command.run_of_not_watches {β : Type} {c : Command} (unwatched : ¬c.Watches)
    (b : Backend β) (offset : Offset) (polls : Nat) (session : Session β) :
    c.run b offset polls session = Session.run b (c.program offset) session := by
  rw [Command.run]
  split
  · next e ended ran => exact ran.symm
  · next first ended ran =>
    rw [Command.watch?_eq_none unwatched]
    exact ran.symm

section Run

variable {client : Client} {request : Endpoint → Request}
  (sends : ∀ e : Endpoint, e.request client.base = .ok (request e)) (respond : Request → Response)

include sends

/-- A call of a client ends well exactly if the response to its request is a good answer. -/
theorem isOk_call (e : Endpoint) :
    (client.call respond e).isOk ↔ ∃ answer, (respond (request e)).Gives e answer := by
  have classified := classified_read e (respond (request e))
  rw [Client.call_of_request (sends e)]
  constructor
  · intro good
    cases ended : e.read (respond (request e)) with
    | ok answer => exact ⟨answer, (classified.ok answer).1 ended⟩
    | error f =>
      rw [ended] at good
      cases good
  · rintro ⟨answer, gives⟩
    rw [(classified.ok answer).2 gives]
    rfl

end Run

/-- A client that connects is the one of its address. -/
theorem ofAddress_of_connect {s : Settings} {client : Client} (connected : s.connect = .ok client) :
    Client.ofAddress s.address s.requestTimeout = .ok client := by
  rw [Settings.connect] at connected
  split at connected
  · cases connected
  · cases made : Client.ofAddress s.address s.requestTimeout with
    | error e =>
      rw [made] at connected
      cases connected
    | ok other =>
      rw [made] at connected
      exact congrArg Except.ok (Except.ok.inj connected)

/-- A command line that names a service on this host, and has it read its tasks again. -/
def reloadLine : List String :=
  ["--url", "http://127.0.0.1:2112/console/", "--timeout-ms", "5000", "reload", "tasks"]

/-- What that command line asks for. -/
def reloadInvocation : Invocation where
  url := "http://127.0.0.1:2112/console/"
  timeout := 5000
  filter := defaultFilter
  format := .text
  command := .reload .tasks

/-- A connection that nobody takes. -/
def refusedConnection : Response :=
  .dropped { text := "connection refused" }

end IngestConsole.CommandLine
