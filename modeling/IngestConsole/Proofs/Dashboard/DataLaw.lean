import IngestConsole.Proofs.Dashboard.Answers

/-!
# The law of the data

After any run a dashboard shows, for each datum, the last successful answer to the call for it, and
no panel waits.  An action changes what it fetches and nothing else: a call that fails leaves its
datum as it was, whatever becomes of the other calls, and what a user selected for the table stays,
but for a page that no longer exists.
-/

set_option autoImplicit false

namespace IngestConsole

open Dashboard Polling Service Table Wire

/-- The new tasks of a view, if the reply is a successful answer to the call for them. -/
def Service.Reply.replacement? (r : Reply) : Option View.Op :=
  (r.answer? .tasks).map fun list => .replaceTasks list.tasks

namespace Dashboard

/-! ## The table -/

/-- What happens to the table: what a user selects, and new tasks. -/
def Entry.viewOp? (e : Entry) : Option View.Op :=
  match e.incident with
  | .act (.select op) => some op.1
  | .answer r => r.replacement?
  | _ => none

/-- What happens to the table, in order. -/
def viewOps (log : List Entry) : List View.Op :=
  log.filterMap Entry.viewOp?

/-- The operations on the view in a log are those of its parts, in order. -/
theorem viewOps_append (log entries : List Entry) :
    viewOps (log ++ entries) = viewOps log ++ viewOps entries :=
  List.filterMap_append

/-- A reply replaces the tasks if it is a list of tasks, and leaves the view alone otherwise. -/
theorem tasks_absorb (d : Dashboard) (r : Reply) :
    (d.absorb r).tasks = d.tasks.run r.replacement?.toList := by
  rcases r with ⟨e, result⟩
  cases e <;> cases result <;> rfl

/-- Replies replace the tasks one after the other. -/
theorem tasks_foldl_absorb (rs : List Reply) (d : Dashboard) :
    (rs.foldl absorb d).tasks = d.tasks.run (rs.filterMap Reply.replacement?) := by
  induction rs generalizing d with
  | nil => rfl
  | cons r rs ih =>
    rw [List.foldl_cons, ih, tasks_absorb, List.filterMap_cons]
    cases r.replacement? <;> rfl

namespace Session

variable {β : Type}

/-- The answers of polls do not touch the tasks. -/
theorem tasks_gather (b : Backend β) (calls : List Endpoint) (s : Session β) :
    (s.gathered b calls).2.dashboard.tasks = s.dashboard.tasks :=
  sleep_frame (·.tasks) (fun _ result => by cases result <;> rfl) (fun _ _ => rfl) b
    (s.called b calls) _

/-- While a session waits nothing is done to the view. -/
theorem viewOps_sleepLog (b : Backend β) (s : Session β) (time : Nat) :
    viewOps (s.sleepLog b time) = [] :=
  filterMap_sleepLog_eq_nil (fun _ _ _ _ => rfl) (fun _ _ => rfl) b s time

/-- While a session waits for its own calls nothing is done to the view. -/
theorem viewOps_gatherLog (b : Backend β) (calls : List Endpoint) (s : Session β) :
    viewOps (s.gatherLog b calls) = [] := by
  rw [gatherLog, viewOps_append, viewOps_sleepLog, List.append_nil]
  exact filterMap_callLog_eq_nil (fun _ _ => rfl) s calls

/-- Of a list of answers, those with tasks are operations on the view. -/
theorem viewOps_answerLog (s : Session β) (rs : List Reply) :
    viewOps (s.answerLog rs) = rs.filterMap Reply.replacement? := by
  rw [viewOps, answerLog, List.filterMap_map]
  rfl

/-- After every step the view is what the operations in the log make of it. -/
theorem viewed_step {b : Backend β} {s s' : Session β} {entries : List Entry}
    (step : Step b s entries s') :
    s'.dashboard.tasks = s.dashboard.tasks.run (viewOps entries) := by
  cases step with
  | begin a =>
    rw [dashboard_begin]
    cases a with
    | operate o => cases o <;> rfl
    | _ => rfl
  | sleep time =>
    rw [viewOps_sleepLog]
    exact sleep_frame (·.tasks) (fun _ result => by cases result <;> rfl) (fun _ _ => rfl) b s time
  | fetch panel calls =>
    rw [fetchLog, viewOps_append, viewOps_gatherLog, viewOps_answerLog, List.nil_append]
    refine (tasks_foldl_absorb _ _).trans (congrArg (View.run · _) ?_)
    exact tasks_gather b calls (s.update (·.setLoading panel true))
  | ask e unheeded =>
    rw [viewOps_append, viewOps_gatherLog, viewOps_answerLog, List.nil_append, tasks_gather,
      gathered_singleton]
    have absorbed := tasks_absorb s.dashboard ⟨e, (b.call e s.backend).1⟩
    rw [unheeded] at absorbed
    refine absorbed.trans (congrArg (View.run _ ·) ?_)
    rw [List.filterMap_cons]
    cases Reply.replacement? _ <;> rfl
  | take f => rfl

/-- The table is what selections and new tasks make of it. -/
theorem viewed_course {b : Backend β} {s s' : Session β} {log : List Entry}
    (course : Course b s log s') : s'.dashboard.tasks = s.dashboard.tasks.run (viewOps log) := by
  induction course with
  | start => rfl
  | step _ last ih =>
    rw [viewed_step last, ih, viewOps_append]
    exact (List.foldl_append ..).symm

/-! ## Panels that wait -/

/-- Replies do not change which panels are loading. -/
theorem isLoading_foldl_absorb (rs : List Reply) (d : Dashboard) :
    (rs.foldl absorb d).isLoading = d.isLoading := by
  induction rs generalizing d with
  | nil => rfl
  | cons r rs ih =>
    rw [List.foldl_cons, ih]
    rcases r with ⟨e, result⟩
    cases e <;> cases result <;> rfl

/-- The answers of polls do not change which panels are loading. -/
theorem isLoading_gather (b : Backend β) (calls : List Endpoint) (s : Session β) :
    (s.gathered b calls).2.dashboard.isLoading = s.dashboard.isLoading :=
  sleep_frame (·.isLoading) (fun _ result => by cases result <;> rfl) (fun _ _ => rfl) b
    (s.called b calls) _

/-- A panel waits only until its answers are taken in. -/
theorem idle_step {b : Backend β} {s s' : Session β} {entries : List Entry}
    (idle : ∀ panel, s.dashboard.isLoading panel = false) (step : Step b s entries s') :
    ∀ panel, s'.dashboard.isLoading panel = false := by
  intro other
  cases step with
  | begin a =>
    rw [dashboard_begin]
    cases a with
    | operate o => cases o <;> exact idle other
    | _ => exact idle other
  | sleep time =>
    rw [sleep_frame (·.isLoading) (fun _ result => by cases result <;> rfl) (fun _ _ => rfl)]
    exact idle other
  | fetch panel calls =>
    let waited := gathered b calls (s.update (·.setLoading panel true))
    have marked : waited.2.dashboard.isLoading = (s.dashboard.setLoading panel true).isLoading :=
      isLoading_gather b calls (s.update (·.setLoading panel true))
    show (waited.1.foldl absorb (waited.2.dashboard.setLoading panel false)).isLoading other = false
    -- what is left is the mark of the panel, which was set before the wait and is taken off now
    rw [isLoading_foldl_absorb]
    show (if other = panel then false else waited.2.dashboard.isLoading other) = false
    rw [marked]
    show (if other = panel then false
      else if other = panel then true else s.dashboard.isLoading other) = false
    rw [idle]
    by_cases same : other = panel <;> simp [same]
  | ask e =>
    rw [isLoading_gather]
    exact idle other
  | take f => exact idle other

/-- A session in which no panel was loading has no loading panel when its course is over. -/
theorem idle_course {b : Backend β} {s s' : Session β} {log : List Entry}
    (idle : ∀ panel, s.dashboard.isLoading panel = false) (course : Course b s log s') :
    ∀ panel, s'.dashboard.isLoading panel = false := by
  induction course with
  | start => exact idle
  | step _ last ih => exact idle_step ih last

end Session

/-! ## Answers of timers and answers of operations -/

/-- Whether timers make the call that a reply answers. -/
def isPolled (r : Reply) : Bool :=
  match r.endpoint with
  | .processInfo | .taskStatus _ => true
  | _ => false

/-- The arrivals of a log are those of its parts, in order. -/
theorem arrivals_append (log entries : List Entry) :
    arrivals (log ++ entries) = arrivals log ++ arrivals entries :=
  List.filterMap_append

/-- Where operations got no answer to a call, only timers did. -/
theorem lastAnswer_arrivals {e : Endpoint} {log : List Entry}
    (other : ∀ r ∈ ownAnswers log, r.endpoint ≠ e) :
    lastAnswer e (answers log) = lastAnswer e (arrivals log) := by
  induction log with
  | nil => rfl
  | cons first rest ih =>
    have own : ownAnswers (first :: rest) = ownAnswers [first] ++ ownAnswers rest :=
      ownAnswers_append [first] rest
    rw [own, List.forall_mem_append] at other
    have here : lastAnswer e (answers [first]) = lastAnswer e (arrivals [first]) := by
      rcases first with ⟨instant, incident⟩
      cases incident with
      | answer r =>
        refine (lastAnswer_singleton e r).trans (Reply.answer?_of_ne ?_)
        exact other.1 r (List.mem_singleton.2 rfl)
      | _ => rfl
    have both := answers_append [first] rest
    have timers := arrivals_append [first] rest
    rw [List.singleton_append] at both timers
    rw [both, timers, lastAnswer_append, lastAnswer_append, here, ih other.2]

namespace Session

variable {β : Type}

/-- What arrives while a session waits was polled. -/
theorem polled_sleepLog (b : Backend β) (s : Session β) (time : Nat) :
    ∀ r ∈ arrivals (s.sleepLog b time), isPolled r = true := by
  refine sleep_induction b (P := fun log _ _ => ∀ r ∈ arrivals log, isPolled r = true)
    ?_ ?_ [] s time fun _ mem => nomatch mem
  · intro log _ _ handle t polled _ _
    rw [arrivals_append, List.forall_mem_append]
    exact ⟨polled, fun _ mem => nomatch mem⟩
  · intro log _ _ instant a polled
    rw [arrivals_append, List.forall_mem_append]
    refine ⟨polled, fun r mem => ?_⟩
    obtain rfl := List.mem_singleton.1 mem
    cases a <;> rfl

/-- What arrives while a session waits for its own calls was polled. -/
theorem polled_gatherLog (b : Backend β) (calls : List Endpoint) (s : Session β) :
    ∀ r ∈ arrivals (s.gatherLog b calls), isPolled r = true := by
  have called : arrivals (s.callLog calls) = [] :=
    filterMap_callLog_eq_nil (fun _ _ => rfl) s calls
  rw [gatherLog, arrivals_append, called]
  exact polled_sleepLog b (s.called b calls) _

/-- Timers fetch the process info and statuses, and nothing else. -/
theorem polled_course {b : Backend β} {s s' : Session β} {log : List Entry}
    (course : Course b s log s') : ∀ r ∈ arrivals log, isPolled r = true := by
  have answered (s : Session β) (rs : List Reply) : arrivals (s.answerLog rs) = [] :=
    filterMap_answerLog_eq_nil (fun _ _ => rfl) s rs
  induction course with
  | start => exact fun _ mem => nomatch mem
  | step _ last ih =>
    rw [arrivals_append, List.forall_mem_append]
    refine ⟨ih, ?_⟩
    cases last with
    | begin a => exact fun _ mem => nomatch mem
    | sleep time => exact polled_sleepLog b _ time
    | fetch panel calls =>
      rw [fetchLog, arrivals_append, answered, List.append_nil]
      exact polled_gatherLog b calls _
    | ask e =>
      rw [arrivals_append, answered, List.append_nil]
      exact polled_gatherLog b [e] _
    | take f => exact fun _ mem => nomatch mem

end Session

/-! ## What an action leaves as it is -/

/-- The calls with which an action fetches what is shown. -/
def Action.wants : Action → List Endpoint
  | operate o => o.wants
  | _ => []

/-- Whether an operation fetches something again and tells whether that succeeded. -/
def Operation.isRefresh : Operation → Bool
  | refreshOverview | refreshTasks | refreshConfig | refreshDump _ => true
  | _ => false

/-- What an operation asks for is nothing that is shown. -/
theorem Operation.not_asks (o : Operation) (x : Datum) : ¬o.asks x.endpoint := by
  cases o with
  | reloadTasks => cases x <;> exact fun same => nomatch same
  | reloadConfig => cases x <;> exact fun same => nomatch same
  | refreshStatus => cases x <;> exact fun ⟨_, same⟩ => nomatch same
  | _ => exact fun asks => asks

/-- An operation wants the list of tasks at most once. -/
theorem Operation.count_tasks_wants_le (o : Operation) : o.wants.count .tasks ≤ 1 := by
  cases o with
  | showTab tab => cases tab <;> simp [Operation.wants, Tab.wants]
  | _ => simp [Operation.wants]

/-- Outside of what users select, the table gets the new tasks that operations fetched. -/
theorem viewOps_of_deeds_nil {log : List Entry} (none_done : deeds log = []) :
    viewOps log = (ownAnswers log).filterMap Reply.replacement? := by
  rw [ownAnswers, List.filterMap_filterMap, viewOps]
  refine List.filterMap_congr fun e mem => ?_
  have not_done := List.filterMap_eq_nil_iff.1 none_done e mem
  rcases e with ⟨instant, incident⟩
  cases incident with
  | act a => cases not_done
  | _ => rfl

/-- There are no more replacements than answers to the call for the tasks. -/
theorem length_replacements_le (rs : List Reply) :
    (rs.filterMap Reply.replacement?).length ≤ (rs.map Reply.endpoint).count .tasks := by
  induction rs with
  | nil => exact Nat.le_refl 0
  | cons r rs ih =>
    rw [List.filterMap_cons, List.map_cons, List.count_cons]
    by_cases same : r.endpoint = .tasks
    · rw [if_pos (beq_iff_eq.2 same)]
      cases r.replacement? with
      | none => exact Nat.le_succ_of_le ih
      | some op => exact Nat.succ_le_succ ih
    · have untouched : r.replacement? = none :=
        congrArg (Option.map _) (Reply.answer?_of_ne same)
      rw [untouched]
      exact ih.trans (Nat.le_add_right _ _)

/-- What a user selected for a table is still selected for another one: the page too, as far as it
exists. -/
structure KeepsSelection (v v' : View) : Prop where
  filter : v'.state.filter = v.state.filter
  sort : v'.state.sort = v.state.sort
  pageSize : v'.state.page.pageSize = v.state.page.pageSize
  page : v'.state.page.currentPage = min v.state.page.currentPage (max v'.totalPages 1)

/-- One replacement of the tasks at most keeps what was selected. -/
theorem keepsSelection_replacements {v : View} (onPage : v.OnPage) {rs : List Reply}
    (once : (rs.map Reply.endpoint).count .tasks ≤ 1) :
    KeepsSelection v (v.run (rs.filterMap Reply.replacement?)) := by
  -- tasks are replaced at most once
  have short := (length_replacements_le rs).trans once
  cases ops : rs.filterMap Reply.replacement? with
  | nil => exact ⟨rfl, rfl, rfl, (Nat.min_eq_left onPage.last).symm⟩
  | cons op rest =>
    rw [ops, List.length_cons] at short
    obtain rfl := List.eq_nil_of_length_eq_zero (by omega : rest.length = 0)
    have listed : op ∈ rs.filterMap Reply.replacement? := ops ▸ List.mem_singleton.2 rfl
    obtain ⟨r, -, replaced⟩ := List.mem_filterMap.1 listed
    obtain ⟨list, -, rfl⟩ := Option.map_eq_some_iff.1 replaced
    exact ⟨rfl, rfl, rfl, onPage.replaceTasks_currentPage list.tasks⟩

/-! ## The law -/

/-- What a dashboard shows is what the answers in its log say. -/
structure DataLaw (d : Dashboard) (log : List Entry) : Prop where
  /-- A datum is the one of the last successful answer, or else the one from the start. -/
  value : ∀ x : Datum,
    d.held x = ((lastAnswer x.endpoint (answers log)).map x.ofAnswer).getD x.initial
  /-- The text that is shown for a dump is the last one that was fetched, or else a placeholder. -/
  text : ∀ kind, d.dumpText kind = (lastAnswer (.dump kind) (answers log)).getD dumpPlaceholder
  /-- No panel waits. -/
  idle : ∀ panel, d.isLoading panel = false

/-- What an action does to what a dashboard shows. -/
structure ActionLaw (before : Dashboard) (a : Action) (log : List Entry) (outcome : Outcome)
    (after : Dashboard) : Prop where
  /-- Every call of the action is answered. -/
  answered : (ownAnswers log).map Reply.endpoint = ownCalls log
  /-- A datum without a successful answer stays as it was, whatever became of other calls. -/
  kept : ∀ x : Datum, (∀ r ∈ answers log, r.endpoint = x.endpoint → r.isOk = false) →
    after.held x = before.held x
  /-- A datum that came from an answer comes from an answer ever after. -/
  lasting : ∀ x : Datum, (∃ answer, before.held x = x.ofAnswer answer) →
    ∃ answer, after.held x = x.ofAnswer answer
  /-- Of the data, the action calls for those at most that it is to fetch. -/
  called : ∀ x : Datum, x.endpoint ∈ ownCalls log → x.endpoint ∈ a.wants
  /-- A datum that the action does not call for changes by what timers fetch, and in no other
  way. -/
  uncalled : ∀ x : Datum, x.endpoint ∉ ownCalls log → after.held x =
    ((lastAnswer x.endpoint (arrivals log)).map x.ofAnswer).getD (before.held x)
  /-- Timers fetch the process info, but no other datum. -/
  polled : ∀ r ∈ arrivals log, ∀ x : Datum, r.endpoint = x.endpoint → x = .processInfo
  /-- What a user selected for the table stays, but for a page that no longer exists. -/
  selection : (∀ op, a ≠ .select op) → KeepsSelection before.tasks after.tasks
  /-- A refresh tells whether all its calls succeeded. -/
  verdict : ∀ o : Operation, a = .operate o → o.isRefresh = true →
    ownCalls log = o.wants ∧ ∃ ok, outcome = .verdict ok ∧
      (ok = true ↔ ∀ r ∈ ownAnswers log, r.isOk = true)
  /-- The text of a dump that is told is the one that is shown from then on. -/
  text : ∀ kind, a = .operate (.dumpText kind) → outcome = .text (after.dumpText kind)

namespace Session

variable {β : Type}

/-- An action calls for no datum that it does not want, and for the tasks at most once. -/
theorem ownCalls_actLog (b : Backend β) (s : Session β) (a : Action) :
    (∀ x : Datum, x.endpoint ∈ ownCalls (s.actLog b a) → x.endpoint ∈ a.wants) ∧
      (ownCalls (s.actLog b a)).count .tasks ≤ 1 := by
  have nothing (none_made : ownCalls (s.actLog b a) = []) :
      (∀ x : Datum, x.endpoint ∈ ownCalls (s.actLog b a) → x.endpoint ∈ a.wants) ∧
        (ownCalls (s.actLog b a)).count .tasks ≤ 1 := by
    rw [none_made]
    exact ⟨(fun x mem => nomatch mem), Nat.zero_le 1⟩
  cases a with
  | operate o =>
    obtain ⟨asked, fetched, made, asks, wants⟩ := ownCalls_operation b o s
    have all : ownCalls (s.actLog b (.operate o)) = asked ++ fetched := made
    rw [all]
    refine ⟨fun x mem => ?_, ?_⟩
    · rcases List.mem_append.1 mem with mem | mem
      · exact absurd (asks _ mem) (o.not_asks x)
      · rcases wants with rfl | rfl
        · cases mem
        · exact mem
    · have unasked : asked.count .tasks = 0 :=
        List.count_eq_zero.2 fun mem => o.not_asks .tasks (asks _ mem)
      rw [List.count_append, unasked, Nat.zero_add]
      rcases wants with rfl | rfl
      · exact Nat.zero_le 1
      · exact o.count_tasks_wants_le
  | sleep time => exact nothing (ownCalls_sleepLog b s time)
  | _ => exact nothing rfl

/-- Every call of an action is answered, in the order of the calls. -/
theorem endpoints_ownAnswers_actLog (b : Backend β) (s : Session β) (a : Action) :
    (ownAnswers (s.actLog b a)).map Reply.endpoint = ownCalls (s.actLog b a) := by
  cases a with
  | operate o => exact endpoints_ownAnswers b o.program s
  | sleep time =>
    show (ownAnswers (s.sleepLog b time)).map Reply.endpoint = ownCalls (s.sleepLog b time)
    rw [ownAnswers_sleepLog, ownCalls_sleepLog]
    rfl
  | _ => rfl

/-- An action that selects nothing changes the view only through the tasks it brings. -/
theorem viewOps_actLog (b : Backend β) (s : Session β) {a : Action} (other : ∀ op, a ≠ .select op) :
    viewOps (s.actLog b a) = (ownAnswers (s.actLog b a)).filterMap Reply.replacement? := by
  cases a with
  | operate o =>
    show viewOps (s.runLog b o.program) = (ownAnswers (s.runLog b o.program)).filterMap _
    exact viewOps_of_deeds_nil (deeds_runLog b o.program s)
  | sleep time =>
    show viewOps (s.sleepLog b time) = (ownAnswers (s.sleepLog b time)).filterMap _
    exact viewOps_of_deeds_nil (deeds_sleepLog b s time)
  | select op => exact absurd rfl (other op)
  | _ => rfl

/-- A refresh says whether all its calls succeeded, and makes the calls it wants. -/
theorem verdict_refresh (b : Backend β) (s : Session β) {o : Operation}
    (refresh : o.isRefresh = true) :
    (s.act b (.operate o)).1 =
        .verdict ((ownAnswers (s.actLog b (.operate o))).all Reply.isOk) ∧
      ownCalls (s.actLog b (.operate o)) = o.wants := by
  have fetches (panel : Panel) (calls : List Endpoint)
      (program : o.program = (Program.fetch panel calls).bind fun ok => .done (.verdict ok))
      (wants : o.wants = calls) :
      (run b o.program s).1 = .verdict ((ownAnswers (s.runLog b o.program)).all Reply.isOk) ∧
        ownCalls (s.runLog b o.program) = o.wants := by
    rw [program, wants, run_bind, runLog_then, runLog_fetch, run_fetch, ownAnswers_fetchLog,
      ownCalls_fetchLog]
    exact ⟨rfl, rfl⟩
  cases o with
  | refreshOverview => exact fetches .overview [.processInfo] rfl rfl
  | refreshTasks => exact fetches .tasks [.tasks] rfl rfl
  | refreshConfig => exact fetches .config [.config, .launchOptions] rfl rfl
  | refreshDump kind => exact fetches .debug [.dump kind] rfl rfl
  | _ => cases refresh

/-- What is shown as a dump is the text of the dump that is then held. -/
theorem text_dumpText (b : Backend β) (s : Session β) (kind : DumpKind) :
    (s.act b (.operate (.dumpText kind))).1 =
      .text ((s.act b (.operate (.dumpText kind))).2.dashboard.dumpText kind) := by
  have told : (run b (Program.dumpText kind) s).1 =
      (run b (Program.dumpText kind) s).2.dashboard.dumpText kind := by
    rw [dumpText_eq, run]
    split
    · rw [run_bind]
      rfl
    · rfl
  show (run b ((Program.dumpText kind).bind fun content => .done (Outcome.text content)) s).1 = _
  rw [run_bind]
  refine (congrArg Outcome.text told).trans ?_
  show _ = Outcome.text ((run b ((Program.dumpText kind).bind _) s).2.dashboard.dumpText kind)
  rw [run_bind]
  rfl

/-- Every action that starts on a page obeys the law of actions. -/
theorem actionLaw_act (b : Backend β) {s : Session β} (onPage : s.dashboard.tasks.OnPage)
    (a : Action) :
    ActionLaw s.dashboard a (s.actLog b a) (s.act b a).1 (s.act b a).2.dashboard := by
  have course := course_act b s a
  have updated := updated_course course
  have answered := endpoints_ownAnswers_actLog b s a
  obtain ⟨fetched, once⟩ := ownCalls_actLog b s a
  exact
    { answered
      kept := fun x failed => by
        rw [updated x, lastAnswer_eq_none failed]
        rfl
      lasting := fun x ⟨answer, shown⟩ => by
        rw [updated x]
        cases lastAnswer x.endpoint (answers (s.actLog b a)) with
        | none => exact ⟨answer, shown⟩
        | some later => exact ⟨later, rfl⟩
      called := fetched
      uncalled := fun x uncalled => by
        rw [updated x, lastAnswer_arrivals]
        intro r mem same
        refine uncalled ?_
        rw [← answered, ← same]
        exact List.mem_map_of_mem mem
      polled := fun r mem x same => by
        have polled := polled_course course r mem
        rw [isPolled, same] at polled
        cases x with
        | processInfo => rfl
        | _ => cases polled
      selection := fun other => by
        rw [viewed_course course, viewOps_actLog b s other]
        exact keepsSelection_replacements onPage (answered ▸ once)
      verdict := by
        rintro o rfl refresh
        obtain ⟨verdict, wants⟩ := verdict_refresh b s refresh
        exact ⟨wants, _, verdict, List.all_eq_true⟩
      text := by
        rintro kind rfl
        exact text_dumpText b s kind }

end Session

/-- Whatever a user did and whatever a backend answered, a dashboard shows the last successful
answers, and whatever is done next changes no more of it than its answers say. -/
theorem dataLaw_script {β : Type} (b : Backend β) (settings : Settings) (backend : β)
    (actions : List Action) :
    let start := Session.start settings backend
    let last := start.script b actions
    DataLaw last.dashboard (start.scriptLog b actions) ∧
      ∀ a, ActionLaw last.dashboard a (last.actLog b a) (last.act b a).1
        (last.act b a).2.dashboard := by
  intro start last
  have course := Session.course_script b start actions
  have updated := Session.updated_course course
  refine ⟨⟨fun x => ?_, fun kind => ?_, ?_⟩, fun a => Session.actionLaw_act b ?_ a⟩
  · rw [updated x]
    cases x <;> rfl
  · exact updated.dumpText rfl
  · exact Session.idle_course (fun _ => rfl) course
  · rw [Session.viewed_course course]
    exact View.onPage_new.run _

end Dashboard

end IngestConsole
