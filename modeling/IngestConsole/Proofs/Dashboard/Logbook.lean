import IngestConsole.Dashboard.Session
import IngestConsole.Proofs.Polling.Schedule

/-!
# The log of a session

What a user does with a dashboard, what the timers do meanwhile, which calls are made and which
answers come in, each with its instant and in the order in which it happens.  The log says nothing
that the session does not do: it follows the run of an operation step by step, and what happens
while the clock runs is noted when it is about to happen.  `Step` lists what can happen to a
session, and `course_act` says that nothing else does.
-/

set_option autoImplicit false

namespace IngestConsole

open Polling Service Table Wire

/-- An operation of a user on the table, which leaves the tasks themselves. -/
def Table.View.Op.isSelection : View.Op → Bool
  | .replaceTasks _ => false
  | _ => true

namespace Dashboard

/-! ## What a user does -/

/-- An operation that may wait for answers. -/
inductive Operation
  | load
  | showTab (tab : Tab)
  | refreshOverview
  | refreshTasks
  | refreshConfig
  | refreshDump (kind : DumpKind)
  | dumpText (kind : DumpKind)
  | reloadTasks
  | reloadConfig
  | refreshStatus

/-- What an operation tells. -/
inductive Outcome
  | done
  /-- Whether everything was fetched. -/
  | verdict (ok : Bool)
  | ended (result : Except CallError Unit)
  | text (content : String)

/-- What an operation fetches when a tab is shown. -/
def Tab.content : Tab → Program Unit
  | .overview => Program.refreshOverview.bind fun _ => .done ()
  | .tasks => Program.refreshTasks.bind fun _ => .done ()
  | .config => Program.refreshConfig.bind fun _ => .done ()
  | .debug => (Program.dumpText .heap).bind fun _ => .done ()

/-- The steps of an operation. -/
def Operation.program : Operation → Program Outcome
  | load => Program.load.bind fun _ => .done .done
  | showTab tab => (Program.showTab tab).bind fun _ => .done .done
  | refreshOverview => Program.refreshOverview.bind fun ok => .done (.verdict ok)
  | refreshTasks => Program.refreshTasks.bind fun ok => .done (.verdict ok)
  | refreshConfig => Program.refreshConfig.bind fun ok => .done (.verdict ok)
  | refreshDump kind => (Program.refreshDump kind).bind fun ok => .done (.verdict ok)
  | dumpText kind => (Program.dumpText kind).bind fun content => .done (.text content)
  | reloadTasks => Program.reloadTasks.bind fun result => .done (.ended result)
  | reloadConfig => Program.reloadConfig.bind fun result => .done (.ended result)
  | refreshStatus => Program.refreshStatus.bind fun ok => .done (.verdict ok)

/-- The steps of an operation that are left when a tab was changed. -/
def Operation.rest : Operation → Program Outcome
  | .showTab tab => tab.content.bind fun _ => .done .done
  | o => o.program

/-- What a user does with a session. -/
inductive Action
  | operate (o : Operation)
  | startOverview
  | stopOverview
  | openStatus (task : String)
  | closeStatus
  | select (op : { op : View.Op // op.isSelection = true })
  | sleep (time : Nat)

/-! ## What happens -/

/-- Something that happens in a session. -/
inductive Incident
  /-- A user sets about something. -/
  | act (a : Action)
  /-- The timer behind a handle ticks while a tab is shown. -/
  | tick (handle : Nat) (job : Job) (tab : Tab)
  /-- An operation makes a call. -/
  | call (e : Endpoint)
  /-- The answer to a call of an operation comes in. -/
  | answer (r : Reply)
  /-- The answer to a call of a timer comes in. -/
  | arrival (r : Reply)

/-- Something that happens at an instant. -/
structure Entry where
  instant : Nat
  incident : Incident

/-- The answer to a call of a timer, as an answer to a call. -/
def Answer.reply : Answer → Reply
  | overview result => ⟨.processInfo, result⟩
  | status fetched => ⟨.taskStatus fetched.fetch.task, fetched.result⟩

/-- What an action does at once to a dashboard, when the next timer that is armed gets a handle. -/
def Action.onDashboard (handle : Nat) (d : Dashboard) : Action → Dashboard
  | .operate (.showTab tab) => { d with tab }
  | .startOverview => { d with overviewTimer := some handle }
  | .stopOverview => { d with overviewTimer := none }
  | .openStatus task =>
    { d with
      status := if task.isEmpty then d.status.closed else d.status.opened task handle }
  | .closeStatus => { d with status := d.status.closed }
  | .select op => { d with tasks := d.tasks.apply op }
  | _ => d

namespace Session

variable {β : Type}

/-- The note on an event that is about to happen. -/
def noteOf (session : Session β) (instant : Nat) : Event → List Entry
  | .tick place => (session.timers[place]?.map fun t =>
      { instant, incident := .tick place t.job session.dashboard.tab }).toList
  | .arrival place => (session.arrivals[place]?.map fun a =>
      { instant, incident := .arrival a.content.reply }).toList

/-- What happens while the clock runs for some time. -/
def sleepLog (b : Backend β) (session : Session β) (time : Nat) : List Entry :=
  Timeline.record noteOf session (handlers b) (session.now + time)

/-- The session after calls were made at once. -/
def called (b : Backend β) (calls : List Endpoint) (session : Session β) : Session β :=
  session.modify fun state => (state.1, (callAll b calls session.backend).2.2)

/-- The entries for calls that are made now. -/
def callLog (session : Session β) (calls : List Endpoint) : List Entry :=
  calls.map fun e => { instant := session.now, incident := .call e }

/-- The answers to calls that are made at once, and the session when the last of them is there. -/
def gathered (b : Backend β) (calls : List Endpoint) (session : Session β) :
    List Reply × Session β :=
  let (replies, delay, _) := callAll b calls session.backend
  (replies, sleep b (session.called b calls) delay)

/-- What happens until the answers to calls are there. -/
def gatherLog (b : Backend β) (calls : List Endpoint) (session : Session β) : List Entry :=
  session.callLog calls
    ++ sleepLog b (session.called b calls) (callAll b calls session.backend).2.1

/-- The entries for answers that come in now. -/
def answerLog (session : Session β) (replies : List Reply) : List Entry :=
  replies.map fun r => { instant := session.now, incident := .answer r }

/-- What happens while a program runs. -/
def runLog {α : Type} (b : Backend β) : Program α → Session β → List Entry
  | .done _, _ => []
  | .look next, session => runLog b (next session.dashboard) session
  | .change f next, session => runLog b next (session.update f)
  | .call e next, session =>
    let result := (b.call e session.backend).1
    let waited := (gathered b [e] session).2
    gatherLog b [e] session ++ answerLog waited [⟨e, result⟩] ++ runLog b (next result) waited
  | .gather calls next, session =>
    let replies := (gathered b calls session).1
    let waited := (gathered b calls session).2
    gatherLog b calls session ++ answerLog waited replies ++ runLog b (next replies) waited

/-- What an action tells, and the session after it. -/
def act (b : Backend β) (session : Session β) : Action → Outcome × Session β
  | .operate o => run b o.program session
  | .startOverview => (.done, session.startOverview)
  | .stopOverview => (.done, session.stopOverview)
  | .openStatus task => (.done, session.openStatus task)
  | .closeStatus => (.done, session.closeStatus)
  | .select op => (.done, session.update fun d => { d with tasks := d.tasks.apply op })
  | .sleep time => (.done, session.sleep b time)

/-- What happens while a user does something. -/
def actLog (b : Backend β) (session : Session β) (a : Action) : List Entry :=
  { instant := session.now, incident := .act a } ::
    match a with
    | .operate o => runLog b o.program session
    | .sleep time => sleepLog b session time
    | _ => []

/-- The session after actions in order. -/
def script (b : Backend β) (session : Session β) (actions : List Action) : Session β :=
  actions.foldl (fun s a => (s.act b a).2) session

/-- What happens while a user does one thing after another. -/
def scriptLog (b : Backend β) (session : Session β) : List Action → List Entry
  | [] => []
  | a :: rest => session.actLog b a ++ scriptLog b (session.act b a).2 rest

/-! ## While the clock runs -/

/-- What holds of a log and a session, and is kept by every tick of a timer that was not stopped and
by every answer to a call of a timer, holds after the clock ran. -/
theorem sleep_induction (b : Backend β)
    {P : List Entry → List (Timer Job) → Dashboard × β → Prop}
    (tick : ∀ log timers state (handle : Nat) t, P log timers state →
      timers[handle]? = some t → t.stopped = none →
        P (log ++ [{ instant := t.due, incident := .tick handle t.job state.1.tab }])
          (timers.set handle t.advance) ((handlers b).tick t.due t.job state).2)
    (arrive : ∀ log timers state instant (a : Answer), P log timers state →
      P (log ++ [{ instant, incident := .arrival a.reply }]) timers
        ((handlers b).arrive instant a state))
    (log : List Entry) (s : Session β) (time : Nat) (start : P log s.timers s.state) :
    P (log ++ s.sleepLog b time) (s.sleep b time).timers (s.sleep b time).state := by
  have step : ∀ (log : List Entry) (tl : Session β) (instant : Nat) (event : Event),
      P log tl.timers tl.state → Timeline.nextDue? tl (s.now + time) = some (instant, event) →
        P (log ++ tl.noteOf instant event) (Timeline.perform tl (handlers b) instant event).timers
          (Timeline.perform tl (handlers b) instant event).state := by
    intro log tl instant event holds due
    -- an answer is due, or a timer that was not stopped
    obtain ⟨-, ⟨place, a, rfl, here⟩ | ⟨place, t, rfl, here, runs, rfl⟩⟩ :=
      Timeline.nextDue?_cases due
    · rw [Timeline.perform_arrival tl _ instant here, noteOf, here]
      exact arrive log tl.timers tl.state instant a.content holds
    · rw [Timeline.perform_tick tl _ t.due here, noteOf, here]
      exact tick log tl.timers tl.state place t holds here runs
  obtain ⟨last, holds, -, ran⟩ := Timeline.runTo_induction noteOf (handlers b) (s.now + time)
    (P := fun log tl => P log tl.timers tl.state) step log s start
  rw [sleep, Timeline.sleep, ran]
  exact holds

/-- A tick changes nothing that is shown. -/
theorem dashboard_tick (b : Backend β) (now : Nat) (job : Job) (s : Dashboard × β) :
    ((handlers b).tick now job s).2.1 = s.1 := by
  cases job with
  | overview =>
    show (if s.1.tab = .overview then _ else _ : Option (Nat × Answer) × Dashboard × β).2.1 = s.1
    split <;> rfl
  | status fetch => rfl

/-- Only timers do something while the clock runs. -/
theorem filterMap_sleepLog_eq_nil {γ : Type} {f : Entry → Option γ}
    (tick : ∀ now handle job tab, f { instant := now, incident := .tick handle job tab } = none)
    (arrival : ∀ now r, f { instant := now, incident := .arrival r } = none) (b : Backend β)
    (s : Session β) (time : Nat) : (s.sleepLog b time).filterMap f = [] := by
  refine sleep_induction b (P := fun log _ _ => log.filterMap f = []) ?_ ?_ [] s time rfl
  · intro log _ state handle t nothing _ _
    rw [List.filterMap_append, nothing, List.filterMap_cons, tick]
    rfl
  · intro log _ _ instant a nothing
    rw [List.filterMap_append, nothing, List.filterMap_cons, arrival]
    rfl

/-- What is not read off sent calls is absent from their log. -/
theorem filterMap_callLog_eq_nil {γ : Type} {f : Entry → Option γ}
    (call : ∀ now e, f { instant := now, incident := .call e } = none) (s : Session β)
    (calls : List Endpoint) : (s.callLog calls).filterMap f = [] := by
  refine List.filterMap_eq_nil_iff.2 fun e mem => ?_
  obtain ⟨made, -, rfl⟩ := List.mem_map.1 mem
  exact call s.now made

/-- What is not read off answers is absent from their log. -/
theorem filterMap_answerLog_eq_nil {γ : Type} {f : Entry → Option γ}
    (answer : ∀ now r, f { instant := now, incident := .answer r } = none) (s : Session β)
    (rs : List Reply) : (s.answerLog rs).filterMap f = [] := by
  refine List.filterMap_eq_nil_iff.2 fun e mem => ?_
  obtain ⟨r, -, rfl⟩ := List.mem_map.1 mem
  exact answer s.now r

/-! ## Runs of programs -/

/-- A program that gathers calls goes on with the replies, in the session that waited for them. -/
theorem run_gather {α : Type} (b : Backend β) (calls : List Endpoint)
    (next : List Reply → Program α) (session : Session β) :
    run b (.gather calls next) session =
      run b (next (gathered b calls session).1) (gathered b calls session).2 := rfl

/-- Gathering a single call answers it and waits as long as it takes. -/
theorem gathered_singleton (b : Backend β) (e : Endpoint) (session : Session β) :
    gathered b [e] session =
      ([⟨e, (b.call e session.backend).1⟩],
        sleep b (session.modify fun state => (state.1, (b.call e session.backend).2))
          (b.delay e session.backend)) := by
  simp only [gathered, called, callAll, Nat.max_zero]

/-- A program that makes a call goes on with its answer, in the session that waited for it. -/
theorem run_call {α : Type} (b : Backend β) (e : Endpoint) (next : e.Result → Program α)
    (session : Session β) :
    run b (.call e next) session =
      run b (next (b.call e session.backend).1) (gathered b [e] session).2 := by
  rw [gathered_singleton]
  rfl

/-- A program that makes a call logs the call, what happened meanwhile, its answer and then the
rest. -/
theorem runLog_call {α : Type} (b : Backend β) (e : Endpoint) (next : e.Result → Program α)
    (session : Session β) :
    runLog b (.call e next) session =
      gatherLog b [e] session
        ++ answerLog (gathered b [e] session).2 (gathered b [e] session).1
        ++ runLog b (next (b.call e session.backend).1) (gathered b [e] session).2 := by
  rw [runLog, gathered_singleton]

/-- Programs in sequence run one after the other. -/
theorem run_bind {α γ : Type} (b : Backend β) (p : Program α) (f : α → Program γ)
    (session : Session β) :
    run b (p.bind f) session = run b (f (run b p session).1) (run b p session).2 := by
  induction p generalizing session with
  | done a => rfl
  | look next ih => exact ih _ session
  | change g next ih => exact ih _
  | call e next ih => rw [Program.bind, run_call, run_call, ih]
  | gather calls next ih => rw [Program.bind, run_gather, run_gather, ih]

/-- Programs in sequence log one after the other. -/
theorem runLog_bind {α γ : Type} (b : Backend β) (p : Program α) (f : α → Program γ)
    (session : Session β) :
    runLog b (p.bind f) session =
      runLog b p session ++ runLog b (f (run b p session).1) (run b p session).2 := by
  induction p generalizing session with
  | done a => rfl
  | look next ih => exact ih _ session
  | change g next ih => exact ih _
  | call e next ih =>
    rw [Program.bind, runLog, runLog, run_call, ih]
    simp only [List.append_assoc]
  | gather calls next ih =>
    rw [Program.bind, runLog, runLog, run_gather, ih]
    simp only [List.append_assoc]

/-- The text of a dump is fetched if none is held, and read off the dashboard. -/
theorem dumpText_eq (kind : DumpKind) :
    Program.dumpText kind = .look fun d =>
      if (d.dumps kind).isNone then
        (Program.fetch .debug [.dump kind]).bind fun _ => .look fun d => .done (d.dumpText kind)
      else .look fun d => .done (d.dumpText kind) := rfl

/-- Asks for something, and then fetches unless it is refused. -/
def askThenFetch (e : Endpoint) (panel : Panel) (calls : List Endpoint) :
    Program (Except CallError Unit) :=
  .call e fun
    | .error error => .done (.error error)
    | .ok _ => (Program.fetch panel calls).bind fun _ => .done (.ok ())

/-- Reloading the tasks asks for it and then fetches the tasks. -/
theorem reloadTasks_eq :
    Program.reloadTasks = askThenFetch .reloadTasks .tasks [.tasks] :=
  congrArg (Program.call Endpoint.reloadTasks) (funext fun r => by cases r <;> rfl)

/-- Reloading the configuration asks for it and then fetches the configuration with its launch
options. -/
theorem reloadConfig_eq :
    Program.reloadConfig = askThenFetch .reloadConfig .config [.config, .launchOptions] :=
  congrArg (Program.call Endpoint.reloadConfig) (funext fun r => by cases r <;> rfl)

/-- Showing a tab changes to it and then fetches its content. -/
theorem showTab_eq (tab : Tab) :
    Program.showTab tab = .change (fun d => { d with tab }) tab.content := by
  cases tab <;> rfl

/-! ## What can happen to a session -/

/-- What an action does at once, before any answer. -/
def begin (session : Session β) : Action → Session β
  | .operate (.showTab tab) => session.update fun d => { d with tab }
  | .startOverview => session.startOverview
  | .stopOverview => session.stopOverview
  | .openStatus task => session.openStatus task
  | .closeStatus => session.closeStatus
  | .select op => session.update fun d => { d with tasks := d.tasks.apply op }
  | _ => session

/-- Stopping a timer takes no time. -/
theorem now_stop (s : Session β) (handle : Option Nat) : (Timeline.stop s handle).now = s.now := by
  cases handle <;> rfl

/-- Stopping a timer leaves the state alone. -/
theorem state_stop (s : Session β) (handle : Option Nat) :
    (Timeline.stop s handle).state = s.state := by
  cases handle <;> rfl

/-- Starting an action takes no time. -/
theorem now_begin (s : Session β) (a : Action) : (s.begin a).now = s.now := by
  cases a with
  | operate o => cases o <;> rfl
  | startOverview => exact now_stop s _
  | stopOverview => exact now_stop s _
  | openStatus task =>
    by_cases empty : task.isEmpty = true
    · simp only [begin, openStatus, StatusMonitor.openOn, empty, if_true]
      exact now_stop s _
    · simp only [begin, openStatus, StatusMonitor.openOn, empty]
      exact now_stop s _
  | closeStatus => exact now_stop s _
  | select op => rfl
  | sleep time => rfl

/-- What an action does at once to what is shown, without any call. -/
theorem state_begin (s : Session β) (a : Action) :
    (s.begin a).state = (a.onDashboard s.timers.length s.dashboard, s.backend) := by
  have stopped (handle : Option Nat) (f : Dashboard → Dashboard) :
      (update (Timeline.stop s handle) f).state = (f s.dashboard, s.backend) := by
    show (f (Timeline.stop s handle).state.1, (Timeline.stop s handle).state.2) = _
    rw [state_stop]
    rfl
  cases a with
  | operate o => cases o <;> rfl
  | startOverview => exact stopped _ fun d => { d with overviewTimer := some s.timers.length }
  | stopOverview => exact stopped _ fun d => { d with overviewTimer := none }
  | openStatus task =>
    by_cases empty : task.isEmpty = true
    · simp only [begin, openStatus, StatusMonitor.openOn, empty, if_true, Action.onDashboard]
      exact stopped _ fun d => { d with status := s.dashboard.status.closed }
    · simp only [begin, openStatus, StatusMonitor.openOn, empty, Action.onDashboard]
      exact stopped _ fun d =>
        { d with status := s.dashboard.status.opened task s.timers.length }
  | closeStatus => exact stopped _ fun d => { d with status := s.dashboard.status.closed }
  | select op => rfl
  | sleep time => rfl

/-- Starting an action changes the dashboard as the action says. -/
theorem dashboard_begin (s : Session β) (a : Action) :
    (s.begin a).dashboard = a.onDashboard s.timers.length s.dashboard :=
  congrArg Prod.fst (s.state_begin a)

/-- Starting an action does not touch the service. -/
theorem backend_begin (s : Session β) (a : Action) : (s.begin a).backend = s.backend := by
  rw [backend, state_begin]

/-- The session after it waited for the answers to calls of a panel and took them in. -/
def fetched (b : Backend β) (panel : Panel) (calls : List Endpoint) (session : Session β) :
    Session β :=
  let (replies, waited) := gathered b calls (session.update (·.setLoading panel true))
  (waited.update (·.setLoading panel false)).update (replies.foldl absorb)

/-- What happens until the answers to calls of a panel are taken in. -/
def fetchLog (b : Backend β) (panel : Panel) (calls : List Endpoint) (session : Session β) :
    List Entry :=
  let marked := session.update (·.setLoading panel true)
  gatherLog b calls marked ++ answerLog (gathered b calls marked).2 (gathered b calls marked).1

/-- An operation that fetches for a panel tells whether all calls succeeded. -/
theorem run_fetch (b : Backend β) (panel : Panel) (calls : List Endpoint) (session : Session β) :
    run b (Program.fetch panel calls) session =
      ((gathered b calls (session.update (·.setLoading panel true))).1.all Reply.isOk,
        fetched b panel calls session) := rfl

/-- Fetching a panel is logged as its calls and their answers. -/
theorem runLog_fetch (b : Backend β) (panel : Panel) (calls : List Endpoint)
    (session : Session β) :
    runLog b (Program.fetch panel calls) session = fetchLog b panel calls session :=
  List.append_nil _

/-- What can happen to a session, with the entries for it. -/
inductive Step (b : Backend β) : Session β → List Entry → Session β → Prop
  /-- A user sets about something. -/
  | begin (session : Session β) (a : Action) :
    Step b session [{ instant := session.now, incident := .act a }] (session.begin a)
  | sleep (session : Session β) (time : Nat) :
    Step b session (sleepLog b session time) (session.sleep b time)
  /-- The answers to calls are awaited and taken in. -/
  | fetch (session : Session β) (panel : Panel) (calls : List Endpoint) :
    Step b session (fetchLog b panel calls session) (fetched b panel calls session)
  /-- The answer to a call is awaited that the dashboard has no place for. -/
  | ask (session : Session β) (e : Endpoint) (unheeded : ∀ d r, absorb d ⟨e, r⟩ = d) :
    Step b session
      (gatherLog b [e] session ++ answerLog (gathered b [e] session).2 (gathered b [e] session).1)
      (gathered b [e] session).2
  /-- The answer to a refresh of the status is shown, if it is accepted. -/
  | take (session : Session β) (f : Fetched) :
    Step b session [] (session.update fun d => { d with status := d.status.take f })

/-- What happens to a session leads to another one. -/
inductive Course (b : Backend β) (session : Session β) : List Entry → Session β → Prop
  | start : Course b session [] session
  | step {log entries : List Entry} {before after : Session β} :
    Course b session log before → Step b before entries after →
      Course b session (log ++ entries) after

/-- A single step is a course. -/
theorem Step.course {b : Backend β} {session after : Session β} {entries : List Entry}
    (step : Step b session entries after) : Course b session entries after :=
  .step .start step

/-- Courses one after the other are a course. -/
theorem Course.trans {b : Backend β} {s s' s'' : Session β} {log log' : List Entry}
    (first : Course b s log s') (second : Course b s' log' s'') :
    Course b s (log ++ log') s'' := by
  induction second with
  | start => rwa [List.append_nil]
  | step _ last ih =>
    rw [← List.append_assoc]
    exact ih.step last

/-! ## Programs run by steps -/

/-- Whatever happens while a program runs is one of the things that can happen. -/
def Charted {α : Type} (b : Backend β) (p : Program α) : Prop :=
  ∀ session : Session β, Course b session (runLog b p session) (run b p session).2

section Charted

variable {α γ : Type} {b : Backend β}

/-- A finished program is charted. -/
theorem charted_done (a : α) : Charted b (.done a) :=
  fun _ => .start

/-- A program that looks at the dashboard is charted if it is so whatever it sees. -/
theorem Charted.look {next : Dashboard → Program α} (charted : ∀ d, Charted b (next d)) :
    Charted b (.look next) :=
  fun session => charted session.dashboard session

/-- Charted programs in sequence are charted. -/
theorem Charted.bind {p : Program α} {f : α → Program γ} (first : Charted b p)
    (second : ∀ a, Charted b (f a)) : Charted b (p.bind f) := by
  intro session
  rw [runLog_bind, run_bind]
  exact (first session).trans (second _ _)

/-- Fetching a panel is charted. -/
theorem charted_fetch (panel : Panel) (calls : List Endpoint) :
    Charted b (Program.fetch panel calls) := by
  intro session
  rw [runLog_fetch, run_fetch]
  exact Step.course (.fetch session panel calls)

/-- A call whose answers the dashboard does not heed is charted if what follows is. -/
theorem charted_call {e : Endpoint} {next : e.Result → Program α}
    (unheeded : ∀ d r, absorb d ⟨e, r⟩ = d) (charted : ∀ r, Charted b (next r)) :
    Charted b (.call e next) := by
  intro session
  have asked := Step.course (.ask (b := b) session e unheeded)
  rw [runLog_call, run_call]
  exact asked.trans (charted _ _)

/-- Showing a dump is charted. -/
theorem charted_dumpText (kind : DumpKind) : Charted b (Program.dumpText kind) := by
  have shown : Charted b (.look fun d => .done (d.dumpText kind)) := .look fun d => charted_done _
  rw [dumpText_eq]
  refine .look fun d => ?_
  split
  · exact (charted_fetch .debug [.dump kind]).bind fun _ => shown
  · exact shown

/-- A request followed by a fetch is charted. -/
theorem charted_askThenFetch {e : Endpoint} (unheeded : ∀ d r, absorb d ⟨e, r⟩ = d)
    (panel : Panel) (calls : List Endpoint) : Charted b (askThenFetch e panel calls) := by
  refine charted_call unheeded fun r => ?_
  cases r with
  | error error => exact charted_done _
  | ok a => exact (charted_fetch panel calls).bind fun _ => charted_done _

/-- Refreshing the status is charted. -/
theorem charted_refreshStatus : Charted b Program.refreshStatus := by
  refine .look fun d => ?_
  dsimp only [Program.bind]
  split
  · exact charted_done _
  · refine charted_call (fun d r => by cases r <;> rfl) fun r session => ?_
    exact Step.course (.take session _)

/-- Fetching the content of a tab is charted. -/
theorem charted_content (tab : Tab) : Charted b tab.content := by
  cases tab with
  | overview => exact (charted_fetch .overview _).bind fun _ => charted_done _
  | tasks => exact (charted_fetch .tasks _).bind fun _ => charted_done _
  | config => exact (charted_fetch .config _).bind fun _ => charted_done _
  | debug => exact (charted_dumpText .heap).bind fun _ => charted_done _

end Charted

/-- What an operation does after its start is charted. -/
theorem charted_rest {β : Type} {b : Backend β} (o : Operation) : Charted b o.rest := by
  have nothing : ∀ {α : Type} (a : α), Charted b (Program.done a) := charted_done
  cases o with
  | load => exact (charted_fetch .global _).bind fun _ => nothing _
  | showTab tab => exact (charted_content tab).bind fun _ => nothing _
  | refreshOverview => exact (charted_fetch .overview _).bind fun _ => nothing _
  | refreshTasks => exact (charted_fetch .tasks _).bind fun _ => nothing _
  | refreshConfig => exact (charted_fetch .config _).bind fun _ => nothing _
  | refreshDump kind => exact (charted_fetch .debug _).bind fun _ => nothing _
  | dumpText kind => exact (charted_dumpText kind).bind fun _ => nothing _
  | reloadTasks =>
    show Charted b (Program.reloadTasks.bind _)
    rw [reloadTasks_eq]
    refine (charted_askThenFetch (fun d r => ?_) .tasks _).bind fun _ => nothing _
    cases r <;> rfl
  | reloadConfig =>
    show Charted b (Program.reloadConfig.bind _)
    rw [reloadConfig_eq]
    refine (charted_askThenFetch (fun d r => ?_) .config _).bind fun _ => nothing _
    cases r <;> rfl
  | refreshStatus => exact charted_refreshStatus.bind fun _ => nothing _

/-- An operation starts, and then its rest runs. -/
theorem run_operation {β : Type} (b : Backend β) (o : Operation) (session : Session β) :
    run b o.program session = run b o.rest (session.begin (.operate o)) ∧
      runLog b o.program session = runLog b o.rest (session.begin (.operate o)) := by
  cases o with
  | showTab tab =>
    rw [Operation.program, showTab_eq]
    exact ⟨rfl, rfl⟩
  | _ => exact ⟨rfl, rfl⟩

/-- Whatever happens while a user does something is one of the things that can happen. -/
theorem course_act {β : Type} (b : Backend β) (session : Session β) (a : Action) :
    Course b session (session.actLog b a) (session.act b a).2 := by
  have begun := Step.course (.begin (b := b) session a)
  cases a with
  | operate o =>
    obtain ⟨ran, logged⟩ := run_operation b o session
    have course := begun.trans (charted_rest o (session.begin (.operate o)))
    rwa [← ran, ← logged] at course
  | sleep time => exact begun.step (.sleep session time)
  | _ => exact begun

/-- Whatever happens while a user does one thing after another is one of the things that can
happen. -/
theorem course_script {β : Type} (b : Backend β) (session : Session β) (actions : List Action) :
    Course b session (session.scriptLog b actions) (session.script b actions) := by
  induction actions generalizing session with
  | nil => exact .start
  | cons a rest ih => exact (course_act b session a).trans (ih _)

end Session

end Dashboard

end IngestConsole
