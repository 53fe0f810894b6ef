import IngestConsole.Proofs.Dashboard.Deeds

/-!
# The calls of a session

What operations call, and what a backend remembers of the calls that it got.  An operation may ask
for something first, and then fetches all that it wants or nothing.  What happens while it waits is
not its own: ticks of timers, and answers to their calls.
-/

set_option autoImplicit false

namespace IngestConsole

open Dashboard Polling Service Wire

/-- What a backend remembers tells the calls that it got, in order. -/
def Service.Backend.Remembers {β : Type} (b : Backend β) (calls : β → List Endpoint) : Prop :=
  ∀ e s, calls (b.call e s).2 = calls s ++ [e]

namespace Dashboard

/-! ## What is an operation's own -/

/-- The calls that operations made, in order. -/
def ownCalls (log : List Entry) : List Endpoint :=
  log.filterMap fun e => match e.incident with
    | .call endpoint => some endpoint
    | _ => none

/-- The answers that operations got, in order. -/
def ownAnswers (log : List Entry) : List Reply :=
  log.filterMap fun e => match e.incident with
    | .answer r => some r
    | _ => none

/-- The calls that a log's own actions made are those of its parts, in order. -/
theorem ownCalls_append (log entries : List Entry) :
    ownCalls (log ++ entries) = ownCalls log ++ ownCalls entries :=
  List.filterMap_append

/-- The answers to a log's own calls are those of its parts, in order. -/
theorem ownAnswers_append (log entries : List Entry) :
    ownAnswers (log ++ entries) = ownAnswers log ++ ownAnswers entries :=
  List.filterMap_append

/-- What a tab shows is fetched with these calls. -/
def Tab.wants : Tab → List Endpoint
  | overview => [.processInfo]
  | tasks => [.tasks]
  | config => [.config, .launchOptions]
  | debug => [.dump .heap]

/-- The calls with which an operation fetches what is shown. -/
def Operation.wants : Operation → List Endpoint
  | load => [.processInfo, .config, .launchOptions]
  | showTab tab => tab.wants
  | refreshOverview => [.processInfo]
  | refreshTasks | reloadTasks => [.tasks]
  | refreshConfig | reloadConfig => [.config, .launchOptions]
  | refreshDump kind | dumpText kind => [.dump kind]
  | refreshStatus => []

/-- The calls that an operation makes before it fetches anything. -/
def Operation.asks : Operation → Endpoint → Prop
  | reloadTasks, e => e = .reloadTasks
  | reloadConfig, e => e = .reloadConfig
  | refreshStatus, e => ∃ task, e = .taskStatus task
  | _, _ => False

/-- Refreshing the status is the only operation that asks for the status of a task. -/
theorem Operation.eq_refreshStatus_of_asks {o : Operation} {task : String}
    (asks : o.asks (.taskStatus task)) : o = .refreshStatus := by
  cases o with
  | refreshStatus => rfl
  | _ => cases asks

/-- No operation wants the status of a task beforehand. -/
theorem Operation.taskStatus_notMem_wants (o : Operation) (task : String) :
    .taskStatus task ∉ o.wants := by
  cases o with
  | showTab tab => cases tab <;> simp [Operation.wants, Tab.wants]
  | _ => simp [Operation.wants]

namespace Session

variable {β : Type}

/-! ## Calls of programs -/

/-- While a session waits it makes no calls of its own. -/
theorem ownCalls_sleepLog (b : Backend β) (s : Session β) (time : Nat) :
    ownCalls (s.sleepLog b time) = [] :=
  filterMap_sleepLog_eq_nil (fun _ _ _ _ => rfl) (fun _ _ => rfl) b s time

/-- While a session waits it gets no answers to calls of its own. -/
theorem ownAnswers_sleepLog (b : Backend β) (s : Session β) (time : Nat) :
    ownAnswers (s.sleepLog b time) = [] :=
  filterMap_sleepLog_eq_nil (fun _ _ _ _ => rfl) (fun _ _ => rfl) b s time

/-- While a session waits nothing is done. -/
theorem deeds_sleepLog (b : Backend β) (s : Session β) (time : Nat) :
    deeds (s.sleepLog b time) = [] :=
  filterMap_sleepLog_eq_nil (fun _ _ _ _ => rfl) (fun _ _ => rfl) b s time

/-- The log of sent calls holds just these calls. -/
theorem ownCalls_callLog (s : Session β) (calls : List Endpoint) :
    ownCalls (s.callLog calls) = calls := by
  rw [ownCalls, callLog, List.filterMap_map]
  exact List.filterMap_some

/-- The log of answers holds no calls. -/
theorem ownCalls_answerLog (s : Session β) (rs : List Reply) : ownCalls (s.answerLog rs) = [] :=
  filterMap_answerLog_eq_nil (fun _ _ => rfl) s rs

/-- The log of sent calls holds no answers. -/
theorem ownAnswers_callLog (s : Session β) (calls : List Endpoint) :
    ownAnswers (s.callLog calls) = [] :=
  filterMap_callLog_eq_nil (fun _ _ => rfl) s calls

/-- The log of answers holds just these answers. -/
theorem ownAnswers_answerLog (s : Session β) (rs : List Reply) :
    ownAnswers (s.answerLog rs) = rs := by
  rw [ownAnswers, answerLog, List.filterMap_map]
  exact List.filterMap_some

/-- Gathering calls makes each of them, in order. -/
theorem ownCalls_gatherLog (b : Backend β) (calls : List Endpoint) (s : Session β) :
    ownCalls (s.gatherLog b calls) = calls := by
  rw [gatherLog, ownCalls_append, ownCalls_callLog, ownCalls_sleepLog, List.append_nil]

/-- Gathering calls logs no answers: they are logged when they are absorbed. -/
theorem ownAnswers_gatherLog (b : Backend β) (calls : List Endpoint) (s : Session β) :
    ownAnswers (s.gatherLog b calls) = [] := by
  rw [gatherLog, ownAnswers_append, ownAnswers_callLog, ownAnswers_sleepLog, List.append_nil]

/-- Every gathered call has its reply, in the order of the calls. -/
theorem endpoints_gathered (b : Backend β) (calls : List Endpoint) (s : Session β) :
    (s.gathered b calls).1.map Reply.endpoint = calls := by
  show (callAll b calls s.backend).1.map Reply.endpoint = calls
  generalize s.backend = remembered
  induction calls generalizing remembered with
  | nil => rfl
  | cons e rest ih => exact congrArg (e :: ·) (ih _)

/-- Fetching a panel makes the calls it was given. -/
theorem ownCalls_fetchLog (b : Backend β) (panel : Panel) (calls : List Endpoint)
    (s : Session β) : ownCalls (s.fetchLog b panel calls) = calls := by
  rw [fetchLog, ownCalls_append, ownCalls_gatherLog, ownCalls_answerLog, List.append_nil]

/-- Fetching a panel absorbs the answers that were gathered for it. -/
theorem ownAnswers_fetchLog (b : Backend β) (panel : Panel) (calls : List Endpoint)
    (s : Session β) :
    ownAnswers (s.fetchLog b panel calls) =
      (gathered b calls (s.update (·.setLoading panel true))).1 := by
  rw [fetchLog, ownAnswers_append, ownAnswers_gatherLog, ownAnswers_answerLog, List.nil_append]

/-- A program gets the answers to its calls, in the order of the calls. -/
theorem endpoints_ownAnswers {α : Type} (b : Backend β) (p : Program α) (s : Session β) :
    (ownAnswers (s.runLog b p)).map Reply.endpoint = ownCalls (s.runLog b p) := by
  induction p generalizing s with
  | done a => rfl
  | look next ih => exact ih _ s
  | change f next ih => exact ih _
  | call e next ih =>
    rw [runLog_call, ownAnswers_append, ownAnswers_append, ownCalls_append, ownCalls_append,
      ownAnswers_gatherLog, ownAnswers_answerLog, ownCalls_gatherLog, ownCalls_answerLog,
      List.map_append, ih, List.nil_append, List.append_nil, endpoints_gathered]
  | gather calls next ih =>
    rw [runLog, ownAnswers_append, ownAnswers_append, ownCalls_append, ownCalls_append,
      ownAnswers_gatherLog, ownAnswers_answerLog, ownCalls_gatherLog, ownCalls_answerLog,
      List.map_append, ih, List.nil_append, List.append_nil, endpoints_gathered]

/-- Running a program does no deed beyond the one that started it. -/
theorem deeds_runLog {α : Type} (b : Backend β) (p : Program α) (s : Session β) :
    deeds (s.runLog b p) = [] := by
  have gathering (s : Session β) (calls : List Endpoint) (replies : List Reply) (s' : Session β) :
      deeds (s.gatherLog b calls ++ s'.answerLog replies) = [] := by
    rw [gatherLog, deeds_append, deeds_append, deeds_sleepLog,
      deeds_of_isQuiet (isQuiet_callLog s calls), deeds_of_isQuiet (isQuiet_answerLog s' replies)]
    rfl
  induction p generalizing s with
  | done a => rfl
  | look next ih => exact ih _ s
  | change f next ih => exact ih _
  | call e next ih => rw [runLog_call, deeds_append, gathering, ih]; rfl
  | gather calls next ih => rw [runLog, deeds_append, gathering, ih]; rfl

/-- While a user does something, nothing else is done. -/
theorem deeds_actLog (b : Backend β) (s : Session β) (a : Action) :
    deeds (s.actLog b a) = [{ instant := s.now, action := a }] := by
  refine congrArg (List.cons ({ instant := s.now, action := a } : Deed)) ?_
  cases a with
  | operate o => exact deeds_runLog b o.program s
  | sleep time => exact deeds_sleepLog b s time
  | _ => rfl

/-- The deeds of a script are its actions, in order. -/
theorem deeds_scriptLog (b : Backend β) (s : Session β) (actions : List Action) :
    (deeds (s.scriptLog b actions)).map Deed.action = actions := by
  induction actions generalizing s with
  | nil => rfl
  | cons a rest ih => rw [scriptLog, deeds_append, deeds_actLog, List.map_append, ih]; rfl

/-! ## Calls of operations -/

/-- What becomes of a program's result is not logged. -/
theorem runLog_then {α γ : Type} (b : Backend β) (p : Program α) (f : α → γ) (s : Session β) :
    s.runLog b (p.bind fun a => .done (f a)) = s.runLog b p := by
  rw [runLog_bind]
  exact List.append_nil _

/-- A dump is called for when its text is wanted and none is held, and not otherwise. -/
theorem ownCalls_dumpText (b : Backend β) (kind : DumpKind) (s : Session β) :
    ownCalls (s.runLog b (Program.dumpText kind)) =
      if (s.dashboard.dumps kind).isNone then [.dump kind] else [] := by
  rw [dumpText_eq, runLog]
  split
  · rw [runLog_bind, ownCalls_append, runLog_fetch, ownCalls_fetchLog]
    rfl
  · rfl

/-- Opening a tab makes all the calls that its content wants, or none. -/
theorem ownCalls_content (b : Backend β) (tab : Tab) (s : Session β) :
    ownCalls (s.runLog b tab.content) = [] ∨ ownCalls (s.runLog b tab.content) = tab.wants := by
  cases tab with
  | debug =>
    rw [Tab.content, runLog_then, ownCalls_dumpText]
    split
    · exact Or.inr rfl
    · exact Or.inl rfl
  | _ =>
    right
    rw [Tab.content, runLog_then]
    exact (congrArg ownCalls (runLog_fetch b _ _ s)).trans (ownCalls_fetchLog b _ _ s)

/-- A request is sent first, and then the calls of the panel, or none of them. -/
theorem ownCalls_askThenFetch (b : Backend β) (e : Endpoint) (panel : Panel)
    (calls : List Endpoint) (s : Session β) :
    ∃ fetched, ownCalls (s.runLog b (askThenFetch e panel calls)) = [e] ++ fetched ∧
      (fetched = [] ∨ fetched = calls) := by
  rw [askThenFetch, runLog_call, ownCalls_append, ownCalls_append, ownCalls_gatherLog,
    ownCalls_answerLog, List.append_nil]
  refine ⟨_, rfl, ?_⟩
  cases (b.call e s.backend).1 with
  | error error => exact Or.inl rfl
  | ok a =>
    right
    refine (congrArg ownCalls (runLog_then b (Program.fetch panel calls) _ _)).trans ?_
    rw [runLog_fetch, ownCalls_fetchLog]

/-- A refresh of the status makes one call, for the open task. -/
theorem ownCalls_refreshStatus (b : Backend β) (s : Session β) :
    ownCalls (s.runLog b Program.refreshStatus) =
      (s.dashboard.status.task.map Endpoint.taskStatus).toList := by
  unfold Program.refreshStatus
  dsimp only [bind, Program.bind, Program.dashboard, runLog]
  rw [StatusMonitor.fetch?]
  cases s.dashboard.status.task with
  | none => rfl
  | some task =>
    refine (congrArg ownCalls (runLog_call b _ _ s)).trans ?_
    rw [ownCalls_append, ownCalls_append, ownCalls_gatherLog, ownCalls_answerLog]
    rfl

/-- An operation asks for something at most, and then fetches all that it wants or nothing. -/
theorem ownCalls_operation (b : Backend β) (o : Operation) (s : Session β) :
    ∃ asked fetched, ownCalls (s.runLog b o.program) = asked ++ fetched ∧
      (∀ e ∈ asked, o.asks e) ∧ (fetched = [] ∨ fetched = o.wants) := by
  -- what fetches and asks for nothing
  have fetches {calls : List Endpoint} (made : ownCalls (s.runLog b o.program) = calls)
      (all : calls = [] ∨ calls = o.wants) :
      ∃ asked fetched, ownCalls (s.runLog b o.program) = asked ++ fetched ∧
        (∀ e ∈ asked, o.asks e) ∧ (fetched = [] ∨ fetched = o.wants) :=
    ⟨[], calls, made, (fun _ mem => nomatch mem), all⟩
  have fetch (panel : Panel) (calls : List Endpoint) (s : Session β) :
      ownCalls (s.runLog b (Program.fetch panel calls)) = calls :=
    (congrArg ownCalls (runLog_fetch b panel calls s)).trans (ownCalls_fetchLog b panel calls s)
  cases o with
  | showTab tab =>
    refine fetches ?_ (ownCalls_content b tab (s.begin (.operate (.showTab tab))))
    rw [(run_operation b (.showTab tab) s).2, Operation.rest, runLog_then]
  | dumpText kind =>
    refine fetches ((congrArg ownCalls (runLog_then b _ _ s)).trans (ownCalls_dumpText b kind s)) ?_
    split
    · exact Or.inr rfl
    · exact Or.inl rfl
  | reloadTasks =>
    rw [Operation.program, runLog_then, reloadTasks_eq]
    obtain ⟨fetched, made, all⟩ := ownCalls_askThenFetch b .reloadTasks .tasks [.tasks] s
    exact ⟨_, fetched, made, fun e mem => List.mem_singleton.1 mem, all⟩
  | reloadConfig =>
    rw [Operation.program, runLog_then, reloadConfig_eq]
    obtain ⟨fetched, made, all⟩ :=
      ownCalls_askThenFetch b .reloadConfig .config [.config, .launchOptions] s
    exact ⟨_, fetched, made, fun e mem => List.mem_singleton.1 mem, all⟩
  | refreshStatus =>
    refine ⟨(s.dashboard.status.task.map Endpoint.taskStatus).toList, [], ?_, fun e mem => ?_,
      Or.inl rfl⟩
    · rw [Operation.program, runLog_then, ownCalls_refreshStatus, List.append_nil]
    · obtain ⟨task, -, same⟩ := Option.map_eq_some_iff.1 (Option.mem_toList.1 mem)
      exact ⟨task, same.symm⟩
  | _ =>
    refine fetches ?_ (Or.inr rfl)
    rw [Operation.program, runLog_then]
    exact fetch _ _ s

/-! ## What a backend remembers -/

section Remembers

variable {b : Backend β} {calls : β → List Endpoint}

/-- A tick calls for what its timer is about, and the service remembers that call last. -/
theorem calls_tick (remembers : b.Remembers calls) (now : Nat) (job : Job) (s : Dashboard × β) :
    calls ((handlers b).tick now job s).2.2 =
      calls s.2 ++ (job.purpose.call? s.1.tab).toList := by
  cases job with
  | overview =>
    show calls
      (if s.1.tab = .overview then _ else _ : Option (Nat × Answer) × Dashboard × β).2.2 = _
    by_cases shown : s.1.tab = .overview
    · rw [if_pos shown, shown]
      exact remembers .processInfo s.2
    · rw [if_neg shown, Purpose.call?, if_neg (by simpa [Job.purpose, Purpose.isDue] using shown)]
      exact (List.append_nil _).symm
  | status fetch => exact remembers (.taskStatus fetch.task) s.2

/-- While a session waits, the service is called as the log tells. -/
theorem calls_sleep (remembers : b.Remembers calls) (s : Session β) (time : Nat) :
    calls (s.sleep b time).backend = calls s.backend ++ callsIn (s.sleepLog b time) := by
  refine sleep_induction b
    (P := fun log _ state => calls state.2 = calls s.backend ++ callsIn log) ?_ ?_ [] s time
    (List.append_nil _).symm
  · intro log _ state handle t remembered _ _
    rw [calls_tick remembers, remembered, callsIn_append, callsIn_singleton, List.append_assoc]
    rfl
  · intro log _ state instant a remembered
    rw [callsIn_append, ← List.append_assoc, ← remembered]
    cases a <;> exact (List.append_nil _).symm

/-- Calls are remembered in the order in which they are made. -/
theorem calls_callAll (remembers : b.Remembers calls) (es : List Endpoint) (s : β) :
    calls (callAll b es s).2.2 = calls s ++ es := by
  induction es generalizing s with
  | nil => exact (List.append_nil _).symm
  | cons e rest ih =>
    refine (ih (b.call e s).2).trans ?_
    rw [remembers, List.append_assoc]
    rfl

/-- While a session waits for its own calls, the service is called as the log tells. -/
theorem calls_gather (remembers : b.Remembers calls) (es : List Endpoint) (s : Session β) :
    calls (s.gathered b es).2.backend =
      calls s.backend
        ++ callsIn (s.gatherLog b es ++ (s.gathered b es).2.answerLog (s.gathered b es).1) := by
  have called : callsIn (s.callLog es) = es := by
    rw [callsIn, callLog, List.filterMap_map]
    exact List.filterMap_some
  have answered (s' : Session β) (rs : List Reply) : callsIn (s'.answerLog rs) = [] :=
    filterMap_answerLog_eq_nil (fun _ _ => rfl) s' rs
  have made : calls (s.called b es).backend = calls s.backend ++ es :=
    calls_callAll remembers es s.backend
  rw [gatherLog, callsIn_append, callsIn_append, called, answered, List.append_nil,
    ← List.append_assoc, ← made]
  exact calls_sleep remembers _ _

/-- A backend remembers the calls of the log and no others. -/
theorem calls_course (remembers : b.Remembers calls) {s s' : Session β} {log : List Entry}
    (course : Course b s log s') : calls s'.backend = calls s.backend ++ callsIn log := by
  induction course with
  | start => exact (List.append_nil _).symm
  | step _ last ih =>
    rw [callsIn_append, ← List.append_assoc, ← ih]
    cases last with
    | begin a =>
      rw [backend_begin]
      exact (List.append_nil _).symm
    | sleep time => exact calls_sleep remembers _ time
    | fetch panel es => exact calls_gather remembers es _
    | ask e => exact calls_gather remembers [e] _
    | take f => exact (List.append_nil _).symm

end Remembers

end Session

end Dashboard

end IngestConsole
