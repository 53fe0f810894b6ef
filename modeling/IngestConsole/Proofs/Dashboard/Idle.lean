import IngestConsole.Proofs.Dashboard.Answers

/-!
# Sessions on whose timeline nothing is due

Without timers and answers under way the clock changes nothing but the time.  What a program comes
to then depends only on what is shown and on how its calls are answered, and it makes its calls one
after another: `Program.eval` says what a run comes to.
-/

set_option autoImplicit false

namespace IngestConsole

open Polling Service Wire

namespace Dashboard

variable {α β γ : Type}

/-! ## Programs on a dashboard alone -/

namespace Program

/-- What a program comes to, what is shown then, and the calls that it makes, if every call ends as
`answer` says. -/
def eval (answer : (e : Endpoint) → e.Result) : Program α → Dashboard →
    α × Dashboard × List Endpoint
  | .done a, d => (a, d, [])
  | .look next, d => (next d).eval answer d
  | .change f next, d => next.eval answer (f d)
  | .call e next, d =>
    let (a, shown, calls) := (next (answer e)).eval answer d
    (a, shown, e :: calls)
  | .gather made next, d =>
    let (a, shown, calls) := (next (made.map fun e => ⟨e, answer e⟩)).eval answer d
    (a, shown, made ++ calls)

variable {answer : (e : Endpoint) → e.Result}

/-- A program that returns at once changes nothing and calls nothing. -/
@[simp] theorem eval_pure (a : α) (d : Dashboard) :
    (pure a : Program α).eval answer d = (a, d, []) :=
  rfl

/-- Looking at the dashboard changes nothing and calls nothing. -/
@[simp] theorem eval_dashboard (d : Dashboard) : dashboard.eval answer d = (d, d, []) :=
  rfl

/-- A change of the dashboard calls nothing. -/
@[simp] theorem eval_modify (f : Dashboard → Dashboard) (d : Dashboard) :
    (modify f).eval answer d = ((), f d, []) :=
  rfl

/-- Asking an endpoint returns its answer and is the one call made. -/
@[simp] theorem eval_ask (e : Endpoint) (d : Dashboard) :
    (ask e).eval answer d = (answer e, d, [e]) :=
  rfl

/-- Programs in sequence are evaluated one after the other, their calls joined. -/
@[simp] theorem eval_bind (p : Program α) (f : α → Program γ) (d : Dashboard) :
    (p >>= f).eval answer d =
      let (a, shown, calls) := p.eval answer d
      let (c, last, more) := (f a).eval answer shown
      (c, last, calls ++ more) := by
  show (p.bind f).eval answer d = _
  induction p generalizing d with
  | done a => rfl
  | look next ih => exact ih _ _
  | change g next ih => exact ih _
  | call e next ih => rw [bind, eval, ih]; rfl
  | gather made next ih =>
    rw [bind, eval, ih]
    simp only [eval, List.append_assoc]

/-- A reply is a success exactly when its result is. -/
theorem isOk_reply {e : Endpoint} (result : e.Result) :
    Reply.isOk ⟨e, result⟩ = result.isOk := by
  rw [Reply.isOk]
  cases result with
  | ok a => rfl
  | error f => rfl

end Program

/-! ## Sessions -/

namespace Session

/-- Nothing is due on the timeline of a session, now or later. -/
structure IsIdle (session : Session β) : Prop where
  timers : session.timers = []
  arrivals : session.arrivals = []

/-- A session starts idle. -/
theorem isIdle_start (settings : Settings) (backend : β) : (start settings backend).IsIdle :=
  ⟨rfl, rfl⟩

/-- Changing the dashboard leaves an idle session idle. -/
theorem IsIdle.update {session : Session β} (idle : session.IsIdle) (f : Dashboard → Dashboard) :
    (session.update f).IsIdle :=
  ⟨idle.timers, idle.arrivals⟩

/-- While the clock of an idle session runs, nothing happens. -/
theorem IsIdle.sleep {session : Session β} (idle : session.IsIdle) (b : Backend β) (time : Nat) :
    session.sleep b time = { session with now := session.now + time } := by
  have nothing : Timeline.nextDue? session (session.now + time) = none := by
    rw [Timeline.nextDue?, Timeline.agenda, idle.timers, idle.arrivals]
    rfl
  rw [Session.sleep, Timeline.sleep, Timeline.runTo]
  split
  · next due => rw [nothing] at due; cases due
  · rfl

/-! ### Before any backend -/

section

variable {session : Session β}

/-- While an idle session waits for the answer to a call, it only becomes later. -/
theorem IsIdle.gathered_singleton (idle : session.IsIdle) (b : Backend β) (e : Endpoint) :
    ∃ waited, gathered b [e] session = ([⟨e, (b.call e session.backend).1⟩], waited) ∧
      waited.IsIdle ∧ waited.dashboard = session.dashboard ∧
      waited.backend = (b.call e session.backend).2 := by
  let waiting : Session β :=
    session.modify fun state => (state.1, (b.call e session.backend).2)
  have still : waiting.IsIdle := ⟨idle.timers, idle.arrivals⟩
  refine ⟨{ waiting with now := waiting.now + b.delay e session.backend }, ?_, ?_, rfl, rfl⟩
  · rw [Session.gathered_singleton, ← still.sleep b]
  · exact ⟨still.timers, still.arrivals⟩

/-- Fetching the tasks in an idle session is one call; the tasks that are shown then are those of
the answer, and after a failure those that were shown before. -/
theorem IsIdle.run_refreshTasks (idle : session.IsIdle) (b : Backend β) :
    let ended := b.call .tasks session.backend
    ∃ after, run b Program.refreshTasks session = (ended.1.isOk, after) ∧
      after.dashboard.tasks.tasks =
        (ended.1.toOption.map (·.tasks)).getD session.dashboard.tasks.tasks ∧
      after.backend = ended.2 := by
  intro ended
  let marked := session.update (·.setLoading .tasks true)
  have marked_idle : marked.IsIdle := idle.update (·.setLoading .tasks true)
  obtain ⟨waited, gathers, -, dashboard, memory⟩ := marked_idle.gathered_singleton b .tasks
  have replies : (gathered b [.tasks] marked).1 = [⟨.tasks, ended.1⟩] := congrArg Prod.fst gathers
  refine ⟨fetched b .tasks [.tasks] session, ?_, ?_, ?_⟩
  · rw [Program.refreshTasks, run_fetch, replies, List.all_cons, List.all_nil, Bool.and_true,
      Program.isOk_reply]
  · have taken : (fetched b .tasks [.tasks] session).dashboard =
        (waited.dashboard.setLoading .tasks false).absorb ⟨.tasks, ended.1⟩ := by
      rw [fetched, gathers]
      rfl
    have held := held_absorb (waited.dashboard.setLoading .tasks false) .tasks ended.1
    rw [taken]
    refine held.trans ?_
    rw [dashboard]
    rfl
  · rw [fetched, gathers]
    exact memory

/-- A reload of the tasks in an idle session is one call, and if that ends well another one, which
has no say in how the reload ends. -/
theorem IsIdle.run_reloadTasks (idle : session.IsIdle) (b : Backend β) :
    let posted := b.call .reloadTasks session.backend
    let fetched := b.call .tasks posted.2
    ∃ after, run b Program.reloadTasks session = (posted.1, after) ∧
      (posted.1.isOk → after.dashboard.tasks.tasks =
        (fetched.1.toOption.map (·.tasks)).getD session.dashboard.tasks.tasks) ∧
      after.backend = if posted.1.isOk then fetched.2 else posted.2 := by
  intro posted fetched
  obtain ⟨waited, gathers, waited_idle, dashboard, memory⟩ :=
    idle.gathered_singleton b .reloadTasks
  have waits : (gathered b [.reloadTasks] session).2 = waited := congrArg Prod.snd gathers
  rw [reloadTasks_eq, askThenFetch, run_call, waits]
  cases posted.1 with
  | error e =>
    refine ⟨waited, rfl, ?_, memory⟩
    intro agreed
    cases agreed
  | ok _ =>
    obtain ⟨after, fetches, shown, remembered⟩ := waited_idle.run_refreshTasks b
    rw [memory] at fetches shown remembered
    rw [dashboard] at shown
    refine ⟨after, ?_, fun _ => shown, remembered⟩
    dsimp only
    rw [run_bind, ← Program.refreshTasks, fetches]
    rfl

end

/-! ### Before a client -/

variable {client : Client} {request : Endpoint → Request}
  (sends : ∀ e : Endpoint, e.request client.base = .ok (request e)) (respond : Request → Response)

include sends

/-- Calling a client as a service answers as the client does and notes the request. -/
theorem call_backend (e : Endpoint) (sent : List Request) :
    (client.backend respond).call e sent =
      (client.call respond e, request e :: sent) := by
  simp only [Client.backend, sends]

/-- Calling a client as a service several times answers each call and notes every request. -/
theorem callAll_backend (calls : List Endpoint) (sent : List Request) :
    callAll (client.backend respond) calls sent =
      (calls.map fun e => ⟨e, client.call respond e⟩, 0, (calls.map request).reverse ++ sent) := by
  induction calls generalizing sent with
  | nil => rfl
  | cons e rest ih =>
    simp only [callAll, call_backend sends, ih]
    simp [Client.backend]

/-- The session after calls were made at once is idle, too. -/
theorem gathered_idle (calls : List Endpoint) {session : Session (List Request)}
    (idle : session.IsIdle) :
    ∃ after, gathered (client.backend respond) calls session =
        (calls.map fun e => ⟨e, client.call respond e⟩, after) ∧ after.IsIdle ∧
      after.dashboard = session.dashboard ∧
      after.backend = (calls.map request).reverse ++ session.backend := by
  have waiting : (called (client.backend respond) calls session).IsIdle :=
    ⟨idle.timers, idle.arrivals⟩
  have waited : (gathered (client.backend respond) calls session).2 = _ :=
    waiting.sleep (client.backend respond) _
  refine ⟨_, Prod.ext ?_ waited, ⟨waiting.timers, waiting.arrivals⟩, rfl, ?_⟩
  · rw [gathered, callAll_backend sends]
  · show (callAll (client.backend respond) calls session.backend).2.2 = _
    rw [callAll_backend sends]

/-- A program that runs in an idle session before a client comes to what it comes to on the
dashboard alone, and sends a request for each of its calls in their order. -/
theorem run_idle (p : Program α) {session : Session (List Request)} (idle : session.IsIdle) :
    ∃ after, run (client.backend respond) p session =
        ((p.eval (client.call respond) session.dashboard).1, after) ∧
      after.dashboard = (p.eval (client.call respond) session.dashboard).2.1 ∧
      after.backend = ((p.eval (client.call respond) session.dashboard).2.2.map request).reverse
        ++ session.backend := by
  -- by the program: a call leaves the session idle, so that the rest starts as the whole did
  induction p generalizing session with
  | done a => exact ⟨session, rfl, rfl, rfl⟩
  | look next ih => exact ih _ idle
  | change f next ih => exact ih (idle.update f)
  | call e next ih =>
    obtain ⟨waited, gathers, still, shown, sent⟩ := gathered_idle sends respond [e] idle
    obtain ⟨after, ran, shows, recorded⟩ := ih (client.call respond e) still
    rw [shown] at ran shows recorded
    refine ⟨after, ?_, shows, ?_⟩
    · rw [run_call, call_backend sends, gathers]
      exact ran
    · simp [recorded, sent, Program.eval]
  | gather calls next ih =>
    obtain ⟨waited, gathers, still, shown, sent⟩ := gathered_idle sends respond calls idle
    obtain ⟨after, ran, shows, recorded⟩ := ih _ still
    rw [shown] at ran shows recorded
    refine ⟨after, ?_, shows, ?_⟩
    · rw [run_gather, gathers]
      exact ran
    · rw [recorded, sent, Program.eval, List.map_append, List.reverse_append, List.append_assoc]

end Session

end Dashboard

end IngestConsole
