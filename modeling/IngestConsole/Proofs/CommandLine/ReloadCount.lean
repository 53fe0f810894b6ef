import IngestConsole.Proofs.CommandLine.Unwatched
import IngestConsole.Proofs.Numeral.Grouping

/-!
# What a reload reports

A reload of the tasks succeeds as soon as the service agrees to it.  The list is fetched after that,
and whether this succeeds is not looked at: the number that is printed is the length of a list of
the service exactly if there is such a list, and is else zero.
-/

set_option autoImplicit false

namespace IngestConsole.CommandLine

open Calendar Dashboard Numeral Service Wire

/-! ## The command -/

/-- What the console prints of a number of tasks after a reload. -/
def reloadReport (count : Nat) : String :=
  "tasks reloaded, " ++ natText count ++ " task(s) running\n"

/-- Reports on reloads tell how many tasks there are. -/
theorem reloadReport_injective : Function.Injective reloadReport := by
  intro m n same
  unfold reloadReport at same
  rw [String.append_left_inj, String.append_right_inj] at same
  exact natText_injective same

/-- What is printed after a reload is the number of tasks that are shown then. -/
theorem run_reloadProgram {β : Type} (b : Backend β) {session : Session β}
    (idle : session.IsIdle) :
    let posted := b.call .reloadTasks session.backend
    let fetched := b.call .tasks posted.2
    let tasks := (fetched.1.toOption.map (·.tasks)).getD session.dashboard.tasks.tasks
    ∃ after, Session.run b (reloadProgram .tasks) session =
        ((posted.1.map fun _ => reloadReport tasks.length).mapError .call, after) ∧
      after.backend = if posted.1.isOk then fetched.2 else posted.2 := by
  intro posted fetched tasks
  obtain ⟨after, reloads, shown, remembered⟩ := idle.run_reloadTasks b
  refine ⟨after, ?_, remembered⟩
  -- a refused reload ends the program before it looks at the tasks
  rw [reloadProgram]
  show Session.run b (Program.reloadTasks.bind _) session = _
  rw [Session.run_bind, reloads]
  revert shown
  cases posted.1 with
  | error e =>
    intro _
    rfl
  | ok _ =>
    intro shown
    show (Except.ok (reloadReport after.dashboard.tasks.tasks.length), after) = _
    rw [shown rfl]
    rfl

/-- How a run ends that has the service read its tasks again: `acknowledged` says that the service
agreed, and `fetched` which lists it gave after that. -/
structure ReloadLaw (acknowledged : Prop) (fetched : TaskList → Prop)
    (result : Except Failure String) : Prop where
  /-- The exit code is zero exactly if the service agreed. -/
  success : exitCode result = 0 ↔ acknowledged
  /-- The number that is reported is that of the tasks in a list that the service gave. -/
  counted : acknowledged → ∀ list, fetched list → ∀ count,
    result = .ok (reloadReport count) ↔ count = list.tasks.length
  /-- If it gave none, the number is zero. -/
  uncounted : acknowledged → (¬∃ list, fetched list) → ∀ count,
    result = .ok (reloadReport count) ↔ count = 0
  /-- A run that succeeds reports the length of a list that the service gave exactly if the service,
  once it agreed, gave one. -/
  real_iff :
    (exitCode result = 0 → ∃ list, fetched list ∧ result = .ok (reloadReport list.tasks.length)) ↔
      (acknowledged → ∃ list, fetched list)

namespace ReloadLaw

/-- What is printed settles which number is reported, and whether it is real. -/
theorem of_counts {acknowledged : Prop} {fetched : TaskList → Prop}
    {result : Except Failure String} (success : exitCode result = 0 ↔ acknowledged)
    (counted : acknowledged → ∀ list, fetched list →
      result = .ok (reloadReport list.tasks.length))
    (uncounted : acknowledged → (¬∃ list, fetched list) → result = .ok (reloadReport 0)) :
    ReloadLaw acknowledged fetched result := by
  have reports {n : Nat} (printed : result = .ok (reloadReport n)) (count : Nat) :
      result = .ok (reloadReport count) ↔ count = n := by
    rw [printed, Except.ok.injEq, reloadReport_injective.eq_iff]
    exact eq_comm
  refine ⟨success, ?_, ?_, ?_⟩
  · intro agreed list given
    exact reports (counted agreed list given)
  · intro agreed none
    exact reports (uncounted agreed none)
  · constructor
    · intro real agreed
      obtain ⟨list, given, -⟩ := real (success.2 agreed)
      exact ⟨list, given⟩
    · intro given zero
      have agreed := success.1 zero
      obtain ⟨list, given⟩ := given agreed
      exact ⟨list, given, counted agreed list given⟩

/-- A reload that is answered as given, and reports how many tasks were fetched or none, satisfies
the law. -/
theorem of_printed {posted : Endpoint.reloadTasks.Result} {fetched : Endpoint.tasks.Result}
    {printed : Printed}
    (ended : printed =
      (posted.map fun _ => reloadReport ((fetched.toOption.map (·.tasks)).getD []).length).mapError
        .call) :
    ReloadLaw posted.isOk (fetched = .ok ·) (printed.mapError .command) := by
  subst ended
  cases posted with
  | error e =>
    have refused : ¬(Except.error e : Endpoint.reloadTasks.Result).isOk = true := Bool.false_ne_true
    refine of_counts (iff_of_false Nat.one_ne_zero refused) ?_ ?_
    · intro agreed
      exact absurd agreed refused
    · intro agreed
      exact absurd agreed refused
  | ok _ =>
    refine of_counts (iff_of_true rfl rfl) ?_ ?_
    · intro _ list given
      subst given
      rfl
    · intro _ none
      cases fetched with
      | ok list => exact absurd ⟨list, rfl⟩ none
      | error e => rfl

/-- The law depends on what was acknowledged and given, and on no other part of the answers. -/
theorem congr {acknowledged acknowledged' : Prop} {fetched fetched' : TaskList → Prop}
    {result : Except Failure String} (law : ReloadLaw acknowledged fetched result)
    (agreed : acknowledged ↔ acknowledged') (given : ∀ list, fetched list ↔ fetched' list) :
    ReloadLaw acknowledged' fetched' result := by
  obtain rfl : acknowledged = acknowledged' := propext agreed
  obtain rfl : fetched = fetched' := funext fun list => propext (given list)
  exact law

end ReloadLaw

/-- What a reload of the tasks comes to before any service. -/
theorem Command.run_reloadTasks {β : Type} (b : Backend β) (memory : β) (settings : Settings)
    (offset : Offset) (polls : Nat) :
    let posted := b.call .reloadTasks memory
    let fetched := b.call .tasks posted.2
    let ended := (Command.reload .tasks).run b offset polls (Session.start settings memory)
    ReloadLaw posted.1.isOk (fetched.1 = .ok ·) (ended.1.mapError .command) ∧
      ended.2.backend = if posted.1.isOk then fetched.2 else posted.2 := by
  intro posted fetched ended
  obtain ⟨after, runs, remembered⟩ :=
    run_reloadProgram b (Session.isIdle_start settings memory)
  have unwatched : ¬(Command.reload .tasks).Watches := id
  have run : ended = (_, after) :=
    (Command.run_of_not_watches unwatched b offset polls (Session.start settings memory)).trans runs
  rw [run]
  exact ⟨.of_printed rfl, remembered⟩

/-- A connected console first has the service read its tasks again, and then fetches them if the
service agreed. -/
theorem Invocation.run_reloadTasks {i : Invocation} (command : i.command = .reload .tasks)
    {client : Client} (connected : i.connect = .ok client) {post get : Request}
    (posts : Endpoint.reloadTasks.request client.base = .ok post)
    (gets : Endpoint.tasks.request client.base = .ok get) (respond : Request → Response)
    (offset : Offset) (polls : Nat) :
    let ended := i.run respond offset polls
    ReloadLaw ((respond post).Gives .reloadTasks ()) ((respond get).Gives .tasks ·) ended.1 ∧
      ended.2 = if exitCode ended.1 = 0 then [post, get] else [post] := by
  intro ended
  obtain ⟨request, sends⟩ := Invocation.exists_requests connected
  obtain rfl : request .reloadTasks = post :=
    Except.ok.inj ((sends .reloadTasks).symm.trans posts)
  obtain rfl : request .tasks = get := Except.ok.inj ((sends .tasks).symm.trans gets)
  have agreed : (client.call respond .reloadTasks).isOk = true ↔
      (respond (request .reloadTasks)).Gives .reloadTasks () := by
    rw [isOk_call sends respond]
    constructor
    · rintro ⟨_, gives⟩
      exact gives
    · intro gives
      exact ⟨(), gives⟩
  have given (list : TaskList) : client.call respond .tasks = .ok list ↔
      (respond (request .tasks)).Gives .tasks list := by
    rw [Client.call_of_request gets]
    exact (classified_read .tasks (respond (request .tasks))).ok list
  let session := (Command.reload .tasks).run (client.backend respond) offset polls
    (Session.start i.settings [])
  have run : ended = (session.1.mapError .command, session.2.backend.reverse) := by
    show i.run respond offset polls = _
    simp only [Invocation.run, connected, command, session]
  obtain ⟨law, sent⟩ :=
    Command.run_reloadTasks (client.backend respond) [] i.settings offset polls
  simp only [Session.call_backend sends] at law sent
  rw [run]
  refine ⟨law.congr agreed given, ?_⟩
  show session.2.backend.reverse = if exitCode (session.1.mapError .command) = 0 then _ else _
  rw [sent]
  by_cases good : (client.call respond .reloadTasks).isOk = true
  · rw [if_pos good, if_pos (law.success.2 good)]
    rfl
  · rw [if_neg good, if_neg fun zero => good (law.success.1 zero)]
    rfl

/-- What a reload of the tasks prints, before any backend and on any command line that is read as
such a reload.  It succeeds exactly if the backend agrees to the reload; the number that it prints
then is the length of the list that the backend gives after that, and zero if the backend gives
none, however that comes about.  So a reload that succeeds reports what a list of the backend says
exactly if the backend gives a list after it agreed. -/
theorem reload_counts_tasks (offset : Offset) (polls : Nat) :
    (∀ {β : Type} (b : Backend β) (memory : β) (settings : Settings),
      let posted := b.call .reloadTasks memory
      let fetched := b.call .tasks posted.2
      let ended := (Command.reload .tasks).run b offset polls (Session.start settings memory)
      ReloadLaw posted.1.isOk (fetched.1 = .ok ·) (ended.1.mapError .command) ∧
        ended.2.backend = if posted.1.isOk then fetched.2 else posted.2) ∧
    ∀ (environment : String → Option String) (args : List String) (i : Invocation)
      (client : Client), Invocation.parse environment args = .ok i →
        i.command = .reload .tasks → i.connect = .ok client →
          ∃ post get : Request, Endpoint.reloadTasks.request client.base = .ok post ∧
            Endpoint.tasks.request client.base = .ok get ∧
            ∀ respond : Request → Response,
              let ended := runArguments environment args respond offset polls
              ReloadLaw ((respond post).Gives .reloadTasks ()) ((respond get).Gives .tasks ·)
                  ended.1 ∧
                ended.2 = if exitCode ended.1 = 0 then [post, get] else [post] := by
  refine ⟨?_, ?_⟩
  · intro β b memory settings
    exact Command.run_reloadTasks b memory settings offset polls
  · intro environment args i client parsed command connected
    obtain ⟨request, sends⟩ := Invocation.exists_requests connected
    refine ⟨request .reloadTasks, request .tasks, sends .reloadTasks, sends .tasks, ?_⟩
    intro respond
    rw [runArguments, parsed]
    exact Invocation.run_reloadTasks command connected (sends .reloadTasks) (sends .tasks) respond
      offset polls

/-- A service that agrees to every reload, and answers everything else with the same text, if with
any. -/
def agreeing (text : Option String) : Request → Response := fun r =>
  match r.method, text with
  | .post, _ => .answered 200 (Text.utf8 "\x7b\"retCode\":\"0000\"\x7d".toList)
  | .get, some text => .answered 200 (Text.utf8 text.toList)
  | .get, none => refusedConnection

def postReload : Request where
  method := .post
  target := "/console/api/v1/tasks/refresh"

def getTasks : Request where
  method := .get
  target := "/console/api/v1/tasks"

/-- Two tasks, as a service gives them. -/
def twoTasks : String :=
  "\x7b\"retCode\":\"0000\",\"entity\":\x7b\"Tasks\":"
    ++ "[\x7b\"Name\":\"a\"\x7d,\x7b\"Name\":\"b\"\x7d],\"Total\":2\x7d\x7d"

/-- Two tasks that the service gives are counted. -/
theorem reload_counts_tasks_two :
    Invocation.parse (fun _ => none) reloadLine = .ok reloadInvocation ∧
      reloadInvocation.connect = .ok Client.loopback ∧
      runArguments (fun _ => none) reloadLine (agreeing twoTasks) 0 0 =
        (.ok "tasks reloaded, 2 task(s) running\n", [postReload, getTasks]) := by
  have parsed : Invocation.parse (fun _ => none) reloadLine = .ok reloadInvocation :=
    eq_ok_of_toOption (by decide +kernel)
  have connected : reloadInvocation.connect = .ok Client.loopback :=
    connect_loopback (.reload .tasks)
  refine ⟨parsed, connected, ?_⟩
  obtain ⟨-, lines⟩ := reload_counts_tasks 0 0
  obtain ⟨post, get, posts, gets, law⟩ := lines _ _ _ _ parsed rfl connected
  obtain ⟨law, sent⟩ := law (agreeing twoTasks)
  have post_eq : Endpoint.reloadTasks.request Client.loopback.base = .ok postReload :=
    eq_ok_of_toOption (by decide +kernel)
  have get_eq : Endpoint.tasks.request Client.loopback.base = .ok getTasks :=
    eq_ok_of_toOption (by decide +kernel)
  obtain rfl : postReload = post := Except.ok.inj (post_eq.symm.trans posts)
  obtain rfl : getTasks = get := Except.ok.inj (get_eq.symm.trans gets)
  have agreed := ((classified_read .reloadTasks (agreeing twoTasks postReload)).ok ()).1
    (eq_ok_of_toOption (by decide +kernel))
  have given := ((classified_read .tasks (agreeing twoTasks getTasks)).ok
    { tasks := [{ name := "a" }, { name := "b" }], total := 2 }).1
      (eq_ok_of_toOption (by decide +kernel))
  have printed := (law.counted agreed _ given _).2 rfl
  rw [printed] at sent
  exact Prod.ext printed sent

/-- No task is counted, and the reload succeeds, although the service gives no list. -/
theorem reload_counts_tasks_dropped :
    let ended := runArguments (fun _ => none) reloadLine (agreeing none) 0 0
    ended = (.ok "tasks reloaded, 0 task(s) running\n", [postReload, getTasks]) ∧
      exitCode ended.1 = 0 ∧ ∀ list, ¬(agreeing none getTasks).Gives .tasks list := by
  refine ⟨by decide +kernel, by decide +kernel, ?_⟩
  rintro list ⟨env, v, held, -⟩
  exact Response.not_holds_dropped held

end IngestConsole.CommandLine
