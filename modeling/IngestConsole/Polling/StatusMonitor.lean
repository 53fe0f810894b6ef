import IngestConsole.Polling.Timeline
import IngestConsole.Service.Backend

/-!
# Status monitors

A status monitor keeps the status of one open task fresh.  Every opening and closing starts a new
generation, and an answer is accepted only if its generation is still the current one, so what
arrives after the task was closed or changed is dropped.  A failed fetch keeps what is shown.
-/

set_option autoImplicit false

namespace IngestConsole.Polling

open Service Wire

/-- A call for the status of a task, with the generation that it was made in. -/
structure Fetch where
  task : String
  generation : Nat
  deriving DecidableEq, Repr

/-- How a fetch ended. -/
structure Fetched where
  fetch : Fetch
  result : Except CallError StatusSnapshot

/-- The status of one open task. -/
structure StatusMonitor where
  /-- The time between two ticks, in milliseconds. -/
  period : Nat
  /-- The open task. -/
  task : Option String := none
  /-- The handle of the timer of the open task. -/
  timer : Option Nat := none
  generation : Nat := 0
  snapshot : Option StatusSnapshot := none
  /-- How often the snapshot was set or cleared. -/
  changes : Nat := 0
  isReleased : Bool := false

namespace StatusMonitor

variable {τ δ σ : Type}

/-- Clears the snapshot, which is a change only if there is one. -/
def clear (m : StatusMonitor) : StatusMonitor :=
  if m.snapshot.isSome then { m with snapshot := none, changes := m.changes + 1 } else m

/-- A timer is held. -/
def isActive (m : StatusMonitor) : Bool :=
  m.timer.isSome

/-- The monitor after the task was closed. -/
def closed (m : StatusMonitor) : StatusMonitor :=
  { m.clear with task := none, timer := none, generation := m.generation + 1 }

/-- The monitor after a task was opened whose timer has a handle.  Opening the open task again keeps
its snapshot. -/
def opened (m : StatusMonitor) (task : String) (handle : Nat) : StatusMonitor :=
  let kept := if m.task = some task then m else m.clear
  { kept with task := some task, timer := some handle, generation := m.generation + 1 }

/-- The call that would fetch the status of the open task now. -/
def fetch? (m : StatusMonitor) : Option Fetch :=
  m.task.map fun task => { task, generation := m.generation }

/-- Whether an answer is accepted. -/
def accepts (m : StatusMonitor) (f : Fetched) : Bool :=
  f.fetch.generation == m.generation && match f.result with
    | .ok _ => true
    | .error _ => false

/-- The monitor after an answer arrived. -/
def take (m : StatusMonitor) (f : Fetched) : StatusMonitor :=
  if m.accepts f then
    { m with snapshot := f.result.toOption, changes := m.changes + 1 }
  else m

/-- The monitor after it was given up: what is still under way is dropped. -/
def released (m : StatusMonitor) : StatusMonitor :=
  { m with timer := none, generation := m.generation + 1, isReleased := true }

/-- Closes the open task and stops its timer. -/
def closeOn (m : StatusMonitor) (tl : Timeline τ δ σ) : StatusMonitor × Timeline τ δ σ :=
  (m.closed, tl.stop m.timer)

/-- Opens a task: the timer of the task before is stopped, and a new one ticks at once.  An absent
or empty name closes the open task.  The timer runs the job that `job` makes of a fetch. -/
def openOn (job : Fetch → τ) (m : StatusMonitor) (task : Option String) (tl : Timeline τ δ σ) :
    StatusMonitor × Timeline τ δ σ :=
  match task with
  | none => m.closeOn tl
  | some task =>
    if task.isEmpty then m.closeOn tl
    else
      let opened := m.opened task tl.nextHandle
      (opened,
        (tl.stop m.timer).arm (job { task, generation := opened.generation }) opened.period)

/-- Makes the call of a fetch: how it will end, and how long that takes. -/
def send {β : Type} (b : Backend β) (f : Fetch) (s : β) : (Nat × Fetched) × β :=
  let (result, s') := b.call (.taskStatus f.task) s
  ((b.delay (.taskStatus f.task) s, { fetch := f, result }), s')

/-! ### What the changes of a monitor do to its parts -/

/-- Clearing what is shown keeps the open task. -/
@[simp]
theorem task_clear (m : StatusMonitor) : m.clear.task = m.task := by
  unfold clear; split <;> rfl

/-- Clearing what is shown keeps the timer. -/
@[simp]
theorem timer_clear (m : StatusMonitor) : m.clear.timer = m.timer := by
  unfold clear; split <;> rfl

/-- Clearing what is shown starts no generation. -/
@[simp]
theorem generation_clear (m : StatusMonitor) : m.clear.generation = m.generation := by
  unfold clear; split <;> rfl

/-- Clearing what is shown keeps the time between two polls. -/
@[simp]
theorem period_clear (m : StatusMonitor) : m.clear.period = m.period := by
  unfold clear; split <;> rfl

/-- After clearing nothing is shown. -/
@[simp]
theorem snapshot_clear (m : StatusMonitor) : m.clear.snapshot = none := by
  unfold clear
  split <;> simp_all

/-- Clearing is a change exactly when there is something to clear. -/
theorem changes_clear (m : StatusMonitor) :
    m.clear.changes = if m.snapshot.isSome then m.changes + 1 else m.changes := by
  unfold clear; split <;> rfl

/-- An opened task is the open one. -/
@[simp]
theorem task_opened (m : StatusMonitor) (task : String) (handle : Nat) :
    (m.opened task handle).task = some task := rfl

/-- An opened task is polled by the timer that was started for it. -/
@[simp]
theorem timer_opened (m : StatusMonitor) (task : String) (handle : Nat) :
    (m.opened task handle).timer = some handle := rfl

/-- Opening a task starts a generation. -/
@[simp]
theorem generation_opened (m : StatusMonitor) (task : String) (handle : Nat) :
    (m.opened task handle).generation = m.generation + 1 := rfl

/-- Opening the open task again keeps what is shown, and no one is told of a change. -/
theorem shown_opened_self {m : StatusMonitor} {task : String} (handle : Nat)
    (h : m.task = some task) :
    (m.opened task handle).snapshot = m.snapshot ∧
      (m.opened task handle).changes = m.changes := by
  simp [opened, h]

/-- Opening another task clears what is shown. -/
theorem shown_opened_other {m : StatusMonitor} {task : String} (handle : Nat)
    (h : m.task ≠ some task) :
    (m.opened task handle).snapshot = none ∧
      (m.opened task handle).changes = m.clear.changes := by
  simp [opened, h]

/-- Opening a task keeps the time between two polls. -/
@[simp]
theorem period_opened (m : StatusMonitor) (task : String) (handle : Nat) :
    (m.opened task handle).period = m.period := by
  simp only [opened]
  split <;> simp

/-- After closing no task is open. -/
@[simp]
theorem task_closed (m : StatusMonitor) : m.closed.task = none := rfl

/-- After closing no timer is held. -/
@[simp]
theorem timer_closed (m : StatusMonitor) : m.closed.timer = none := rfl

/-- Closing starts a generation. -/
@[simp]
theorem generation_closed (m : StatusMonitor) : m.closed.generation = m.generation + 1 := rfl

/-- After closing nothing is shown. -/
@[simp]
theorem snapshot_closed (m : StatusMonitor) : m.closed.snapshot = none :=
  m.snapshot_clear

/-- Closing is a change exactly where clearing is one. -/
@[simp]
theorem changes_closed (m : StatusMonitor) : m.closed.changes = m.clear.changes := rfl

/-- An answer does not change the open task. -/
@[simp]
theorem task_take (m : StatusMonitor) (f : Fetched) : (m.take f).task = m.task := by
  unfold take; split <;> rfl

/-- An answer does not change the timer. -/
@[simp]
theorem timer_take (m : StatusMonitor) (f : Fetched) : (m.take f).timer = m.timer := by
  unfold take; split <;> rfl

/-- An answer starts no generation. -/
@[simp]
theorem generation_take (m : StatusMonitor) (f : Fetched) :
    (m.take f).generation = m.generation := by
  unfold take; split <;> rfl

/-- An accepted answer is a success of the current generation. -/
theorem accepts_iff (m : StatusMonitor) (f : Fetched) :
    m.accepts f = true ↔
      f.fetch.generation = m.generation ∧ ∃ snapshot, f.result = .ok snapshot := by
  unfold accepts
  cases f.result <;> simp

/-- An answer that is not accepted changes nothing. -/
theorem take_of_not_accepts {m : StatusMonitor} {f : Fetched} (h : m.accepts f = false) :
    m.take f = m := by
  simp [take, h]

/-- An accepted answer is shown, which is a change. -/
theorem shown_take_of_accepts {m : StatusMonitor} {f : Fetched} {snapshot : StatusSnapshot}
    (h : m.accepts f = true) (value : f.result = .ok snapshot) :
    (m.take f).snapshot = some snapshot ∧ (m.take f).changes = m.changes + 1 := by
  simp [take, h, value, Except.toOption]

end StatusMonitor

/-- A status monitor on a timeline, before a backend. -/
abbrev MonitorRun (β : Type) := Timeline Fetch Fetched (StatusMonitor × β)

namespace MonitorRun

variable {β : Type}

/-- A tick makes a call, and its answer goes to the monitor. -/
def handlers (b : Backend β) : Handlers Fetch Fetched (StatusMonitor × β) where
  tick _ f s :=
    let (answer, backend) := StatusMonitor.send b f s.2
    (some answer, s.1, backend)
  arrive _ f s := (s.1.take f, s.2)

/-- A monitor without an open task. -/
def start (period : Nat) (backend : β) : MonitorRun β where
  state := ({ period }, backend)

/-- The monitor. -/
def monitor (run : MonitorRun β) : StatusMonitor :=
  run.state.1

/-- Puts a monitor in the place of the old one. -/
def withMonitor (r : StatusMonitor × MonitorRun β) : MonitorRun β :=
  r.2.modify fun s => (r.1, s.2)

/-- Closes the open task. -/
def close (run : MonitorRun β) : MonitorRun β :=
  withMonitor (run.monitor.closeOn run)

/-- Opens a task; an absent or empty name closes the open one. -/
def openTask (run : MonitorRun β) (task : Option String) : MonitorRun β :=
  withMonitor (run.monitor.openOn id task run)

/-- Lets the clock run for some time. -/
def sleep (b : Backend β) (run : MonitorRun β) (time : Nat) : MonitorRun β :=
  Timeline.sleep run (handlers b) time

/-- Fetches the status of the open task out of turn and waits for the answer; tells whether it was
accepted. -/
def refresh (b : Backend β) (run : MonitorRun β) : Bool × MonitorRun β :=
  match run.monitor.fetch? with
  | none => (false, run)
  | some f =>
    let ((delay, answer), backend) := StatusMonitor.send b f run.state.2
    let waited := sleep b (run.modify fun s => (s.1, backend)) delay
    (waited.monitor.accepts answer, waited.modify fun s => (s.1.take answer, s.2))

/-- Gives the monitor up. -/
def release (run : MonitorRun β) : MonitorRun β :=
  (run.stop run.monitor.timer).modify fun s => (s.1.released, s.2)

/-- The monitor was given up and nothing is left that knows of it, so that no one who watches it
will hear of it again. -/
def isOver (run : MonitorRun β) : Bool :=
  run.monitor.isReleased && run.isQuiet

/-! ### The monitor and the timers after an opening and a closing -/

/-- Closing in a run closes the monitor. -/
@[simp]
theorem monitor_close (run : MonitorRun β) : run.close.monitor = run.monitor.closed := rfl

/-- Closing in a run stops the timer that the monitor holds, and no other. -/
@[simp]
theorem timers_close (run : MonitorRun β) :
    run.close.timers = (run.stop run.monitor.timer).timers := rfl

/-- Opening no task closes the open one. -/
theorem openTask_none (run : MonitorRun β) : run.openTask none = run.close := rfl

/-- Opening a task without a name closes the open one. -/
theorem openTask_empty (run : MonitorRun β) : run.openTask (some "") = run.close := rfl

/-- Opening a task in a run gives the monitor the timer that is started next. -/
theorem monitor_openTask (run : MonitorRun β) {task : String} (h : task ≠ "") :
    (run.openTask (some task)).monitor = run.monitor.opened task run.timers.length := by
  simp [openTask, StatusMonitor.openOn, h, withMonitor, monitor, Timeline.modify,
    Timeline.nextHandle]

/-- Opening a task stops the timer before and arms one that fetches the task in the new
generation. -/
theorem timers_openTask (run : MonitorRun β) {task : String} (h : task ≠ "") :
    (run.openTask (some task)).timers = (run.stop run.monitor.timer).timers ++
      [{ job := { task, generation := run.monitor.generation + 1 }
         start := run.now
         period := run.monitor.period }] := by
  have now : (run.stop run.state.1.timer).now = run.now := by cases run.state.1.timer <;> rfl
  simp [openTask, StatusMonitor.openOn, h, withMonitor, Timeline.modify, Timeline.arm, monitor,
    now]

end MonitorRun

end IngestConsole.Polling
