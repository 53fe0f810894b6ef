import IngestConsole.Dashboard.Program

/-!
# Sessions

A session is a dashboard on a timeline, before a backend.  While it waits for an answer or sleeps,
its timers tick: one fetches the process info as long as the overview is shown, the other the status
of the open task.
-/

set_option autoImplicit false

namespace IngestConsole.Dashboard

open Polling Service Wire

/-- What a timer of a session does. -/
inductive Job
  /-- Fetches the process info. -/
  | overview
  /-- Fetches the status of a task. -/
  | status (fetch : Fetch)
  deriving DecidableEq, Repr

/-- An answer to a call of a timer. -/
inductive Answer
  | overview (result : Except CallError ProcessInfo)
  | status (fetched : Fetched)

/-- A dashboard on a timeline, before a backend. -/
abbrev Session (β : Type) := Timeline Job Answer (Dashboard × β)

namespace Session

variable {β : Type}

/-- What happens on the timeline of a session. -/
def handlers (b : Backend β) : Handlers Job Answer (Dashboard × β) where
  tick
    | _, .overview, (d, s) =>
      if d.tab = .overview then
        let (result, s') := b.call .processInfo s
        (some (b.delay .processInfo s, .overview result), d, s')
      else (none, d, s)
    | _, .status fetch, (d, s) =>
      let ((delay, fetched), s') := StatusMonitor.send b fetch s
      (some (delay, .status fetched), d, s')
  arrive
    | _, .overview result, (d, s) => (d.absorb ⟨.processInfo, result⟩, s)
    | _, .status fetched, (d, s) => ({ d with status := d.status.take fetched }, s)

/-- A session in which nothing happened yet. -/
def start (settings : Settings) (backend : β) : Session β where
  state := (ofSettings settings, backend)

/-- What the session shows. -/
def dashboard (session : Session β) : Dashboard :=
  session.state.1

/-- What the backend remembers. -/
def backend (session : Session β) : β :=
  session.state.2

/-- Changes what the session shows. -/
def update (session : Session β) (f : Dashboard → Dashboard) : Session β :=
  session.modify fun s => (f s.1, s.2)

/-- Lets the clock run for some time. -/
def sleep (b : Backend β) (session : Session β) (time : Nat) : Session β :=
  Timeline.sleep session (handlers b) time

/-- Makes several calls at once: how they will end, and how long the slowest of them takes. -/
def callAll (b : Backend β) : List Endpoint → β → List Reply × Nat × β
  | [], s => ([], 0, s)
  | e :: rest, s =>
    let (result, s') := b.call e s
    let (replies, delay, s'') := callAll b rest s'
    (⟨e, result⟩ :: replies, max (b.delay e s) delay, s'')

/-- Runs a program. -/
def run {α : Type} (b : Backend β) : Program α → Session β → α × Session β
  | .done a, session => (a, session)
  | .look next, session => run b (next session.dashboard) session
  | .change f next, session => run b next (session.update f)
  | .call e next, session =>
    let (result, s) := b.call e session.backend
    let waited := sleep b (session.modify fun state => (state.1, s)) (b.delay e session.backend)
    run b (next result) waited
  | .gather calls next, session =>
    let (replies, delay, s) := callAll b calls session.backend
    let waited := sleep b (session.modify fun state => (state.1, s)) delay
    run b (next replies) waited

/-- Fetches the process info from now on again and again, in place of an earlier timer. -/
def startOverview (session : Session β) : Session β :=
  let handle := session.nextHandle
  let d := session.dashboard
  update ((session.stop d.overviewTimer).arm .overview d.overviewPeriod) fun d =>
    { d with overviewTimer := some handle }

/-- Stops fetching the process info. -/
def stopOverview (session : Session β) : Session β :=
  update (session.stop session.dashboard.overviewTimer) fun d => { d with overviewTimer := none }

/-- Puts a status monitor in the place of the old one. -/
def withStatus (r : StatusMonitor × Session β) : Session β :=
  update r.2 fun d => { d with status := r.1 }

/-- Opens the status of a task. -/
def openStatus (session : Session β) (task : String) : Session β :=
  withStatus (session.dashboard.status.openOn .status (some task) session)

/-- Closes the status of the open task. -/
def closeStatus (session : Session β) : Session β :=
  withStatus (session.dashboard.status.closeOn session)

end Session

end IngestConsole.Dashboard
