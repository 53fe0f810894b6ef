import IngestConsole.Proofs.Polling.Scripts

/-!
# The timer of the open task

However openings, closings, ticks, refreshes and arrivals follow one another, a status monitor holds
a timer exactly while a task is open, and of all timers that it ever armed only the held one is not
stopped.  That timer fetches the open task in the current generation.  While no task is open no
timer runs, so that no call is made before a task is opened again.  What is under way was called for
in the current generation or in an earlier one, and every opening and every closing starts a later
one.
-/

set_option autoImplicit false

namespace IngestConsole.Polling

open Service Wire

/-- A timer is held while a task is open, and all other timers are stopped. -/
structure SoleTimer (m : StatusMonitor) (timers : List (Timer Fetch)) : Prop where
  /-- A timer is held exactly while a task is open. -/
  held : m.isActive = true ↔ ∃ task, m.task = some task
  /-- The open task has a name. -/
  named : ∀ task, m.task = some task → task ≠ ""
  /-- While a task is open the held timer was not stopped.  It fetches the open task in the current
  generation, and it is the only timer that was not stopped. -/
  sole : ∀ task, m.task = some task → ∃ handle t, m.timer = some handle ∧
    timers[handle]? = some t ∧ t.stopped = none ∧
    t.job = { task, generation := m.generation } ∧
    ∀ (other : Nat) t', timers[other]? = some t' → t'.stopped = none → other = handle
  /-- While no task is open every timer was stopped. -/
  idle : m.task = none → ∀ t ∈ timers, t.stopped ≠ none

/-- Opens a task that has a name. -/
def Happening.opens : Happening → Bool
  | openTask (some task) => task != ""
  | _ => false

/-- While nothing opens a task, none is open. -/
theorem Happening.openAfter_none {h : Happening} (closed : h.opens = false) :
    h.openAfter none = none := by
  cases h with
  | openTask task => cases task <;> simp_all [opens, openAfter]
  | _ => rfl

/-- Nothing that is asked of a timer but its tick depends on its clock. -/
theorem SoleTimer.of_core {m : StatusMonitor} {timers timers' : List (Timer Fetch)}
    (sole : SoleTimer m timers) (same : timers.map Timer.core = timers'.map Timer.core) :
    SoleTimer m timers' := by
  -- in both directions: the timers have the same jobs, and the same ones of them are stopped
  have there : ∀ (ts us : List (Timer Fetch)), ts.map Timer.core = us.map Timer.core →
      ∀ (handle : Nat) u, us[handle]? = some u →
        ∃ t, ts[handle]? = some t ∧ t.job = u.job ∧ (t.stopped = none ↔ u.stopped = none) := by
    intro ts us agree handle u here
    have cores := congrArg (·[handle]?) agree
    simp only [List.getElem?_map, here, Option.map_some] at cores
    obtain ⟨t, is_there, core⟩ := Option.map_eq_some_iff.1 cores
    simp only [Timer.core, Prod.mk.injEq] at core
    refine ⟨t, is_there, core.1, ?_⟩
    rw [← Option.isSome_eq_false_iff.trans Option.isNone_iff_eq_none, core.2.2,
      Option.isSome_eq_false_iff.trans Option.isNone_iff_eq_none]
  refine ⟨sole.held, sole.named, fun task is_open => ?_, fun closed u mem => ?_⟩
  · obtain ⟨handle, t, held, here, runs, job, alone⟩ := sole.sole task is_open
    obtain ⟨u, here', job', stopped⟩ := there timers' timers same.symm handle t here
    refine ⟨handle, u, held, here', stopped.2 runs, job'.trans job, ?_⟩
    intro other u' at_other runs'
    obtain ⟨t', at_other', -, stopped'⟩ := there timers timers' same other u' at_other
    exact alone other t' at_other' (stopped'.2 runs')
  · obtain ⟨handle, here⟩ := List.mem_iff_getElem?.1 mem
    obtain ⟨t, here', -, stopped⟩ := there timers timers' same handle u here
    exact fun runs => sole.idle closed t (List.mem_of_getElem? here') (stopped.2 runs)

namespace Watch

/-! ## The held timer is not stopped -/

/-- The held timer is one that was not stopped. -/
structure Armed (w : Watch) : Prop where
  tracks : w.Tracks
  named : w.monitor.task ≠ some ""
  armed : ∀ handle, w.monitor.timer = some handle →
    ∃ t, w.run.timers[handle]? = some t ∧ t.stopped = none

/-- A watch starts with no timer to hold. -/
theorem armed_start (period : Nat) : (start period).Armed :=
  ⟨tracks_start period, by simp [start, monitor, MonitorRun.monitor, MonitorRun.start],
    by simp [start, monitor, MonitorRun.monitor, MonitorRun.start]⟩

/-- After closing no timer is held that was stopped. -/
theorem Armed.after_close {w : Watch} (armed : w.Armed) {h : Happening}
    (allowed : w.allows h = true) (closes : w.runAfter h = w.run.close) : (w.after h).Armed := by
  have monitor : (w.after h).monitor = w.monitor.closed := congrArg MonitorRun.monitor closes
  refine ⟨armed.tracks.after allowed, ?_, fun handle held => ?_⟩
  · simp [monitor]
  · simp [monitor] at held

/-- After opening a task the timer that was started for it is held. -/
theorem Armed.after_openTask {w : Watch} (armed : w.Armed) {task : String} (named : task ≠ "") :
    (w.after (.openTask (some task))).Armed := by
  have monitor : (w.after (.openTask (some task))).monitor =
      w.monitor.opened task w.run.timers.length := w.run.monitor_openTask named
  have timers := w.run.timers_openTask named
  have length : (w.run.stop w.run.monitor.timer).timers.length = w.run.timers.length := by
    cases w.run.monitor.timer <;> simp [Timeline.stop]
  refine ⟨armed.tracks.after rfl, ?_, fun handle held => ?_⟩
  · rw [monitor, StatusMonitor.task_opened]
    exact fun same => named (Option.some.inj same)
  · rw [monitor, StatusMonitor.timer_opened] at held
    obtain rfl := Option.some.inj held
    change ∃ t, (w.run.openTask (some task)).timers[w.run.timers.length]? = some t ∧ _
    rw [timers, ← length, List.getElem?_concat_length]
    exact ⟨_, rfl, rfl⟩

/-- Whatever may happen, the held timer is one that was not stopped. -/
theorem Armed.after {w : Watch} (armed : w.Armed) {h : Happening}
    (allowed : w.allows h = true) : (w.after h).Armed := by
  have of_quiet (quiet : h.isSwitch = false) : (w.after h).Armed := by
    obtain ⟨timers, task, timer, -⟩ := w.runAfter_of_not_isSwitch quiet
    refine ⟨armed.tracks.after allowed, fun same => armed.named (task ▸ same), ?_⟩
    intro handle held
    obtain ⟨t, here, runs⟩ := armed.armed handle (timer ▸ held)
    exact ⟨t, timers ▸ here, runs⟩
  cases h with
  | openTask task =>
    cases task with
    | none => exact armed.after_close allowed w.run.openTask_none
    | some task =>
      by_cases named : task = ""
      · subst named
        exact armed.after_close allowed w.run.openTask_empty
      · exact armed.after_openTask named
  | close => exact armed.after_close allowed rfl
  | tick handle => exact of_quiet rfl
  | refresh => exact of_quiet rfl
  | arrive origin result => exact of_quiet rfl

/-- In every interleaving the held timer is one that was not stopped. -/
theorem armed_interleave (period : Nat) (hs : List Happening) : (interleave period hs).Armed :=
  interleave_induction (armed_start period) (fun _ _ armed allowed => armed.after allowed) hs

/-! ## What follows -/

/-- The held timer is the only one that runs. -/
theorem Armed.soleTimer {w : Watch} (armed : w.Armed) : SoleTimer w.monitor w.run.timers := by
  have running := armed.tracks.running
  have held := armed.tracks.held
  refine ⟨?_, fun task is_open same => ?_, fun task is_open => ?_, fun closed t mem runs => ?_⟩
  · rw [StatusMonitor.isActive, held, Option.isSome_iff_exists]
  · exact armed.named (same ▸ is_open)
  · rw [is_open] at held
    obtain ⟨handle, holds⟩ := Option.isSome_iff_exists.1 held
    obtain ⟨t, here, runs⟩ := armed.armed handle holds
    have job := (running handle t here runs).2
    rw [StatusMonitor.fetch?, is_open] at job
    refine ⟨handle, t, holds, here, runs, (Option.some.inj job).symm, ?_⟩
    intro other t' there runs'
    exact Option.some.inj ((running other t' there runs').1.symm.trans holds)
  · obtain ⟨handle, here⟩ := List.mem_iff_getElem?.1 mem
    have holds := (running handle t here runs).1
    rw [holds, closed] at held
    cases held

/-- No call is of a generation yet to come. -/
theorem Tracks.generation_call_le {w : Watch} (tracks : w.Tracks) {origin : Nat} {fetch : Fetch}
    (called : w.call? origin = some fetch) : fetch.generation ≤ w.monitor.generation := by
  rw [(tracks.calls origin fetch called).1, tracks.generation]
  exact (List.take_sublist _ _).countP_le

/-- A switch starts the next generation. -/
theorem Tracks.generation_after {w : Watch} (tracks : w.Tracks) {h : Happening}
    (switch : h.isSwitch = true) : (w.after h).monitor.generation = w.monitor.generation + 1 := by
  have allowed : w.allows h = true := by cases h <;> simp_all [Happening.isSwitch, allows]
  rw [(tracks.after allowed).generation, tracks.generation, history_after, List.countP_append]
  simp [switch]

/-- While no task is open, what opens none makes no call. -/
theorem Armed.callOf_closed {w : Watch} (armed : w.Armed) (closed : w.monitor.task = none)
    {h : Happening} (allowed : w.allows h = true) : w.callOf h = none := by
  have nothing : w.monitor.fetch? = none := by rw [StatusMonitor.fetch?, closed]; rfl
  cases h with
  | tick handle => rw [armed.tracks.callOf_tick allowed, nothing]
  | refresh => exact nothing
  | _ => rfl

/-- While no task is open, nothing makes a call until a task is opened. -/
theorem Armed.silent {w : Watch} (armed : w.Armed) (closed : w.monitor.task = none)
    {hs : List Happening} (none_opened : ∀ h ∈ hs, h.opens = false) :
    (hs.foldl next w).monitor.task = none ∧
      ∃ entries : List LogEntry, (hs.foldl next w).log = w.log ++ entries ∧
        ∀ e ∈ entries, e.call = none := by
  induction hs generalizing w with
  | nil => exact ⟨closed, [], (List.append_nil _).symm, fun _ mem => nomatch mem⟩
  | cons h hs ih =>
    have later := fun x mem => none_opened x (List.mem_cons_of_mem h mem)
    rw [List.foldl_cons, next]
    split
    next allowed =>
      have still_closed : (w.after h).monitor.task = none := by
        rw [(armed.tracks.after allowed).task, history_after, openTaskOf_append,
          ← armed.tracks.task, closed]
        exact Happening.openAfter_none (none_opened h (List.mem_cons_self ..))
      obtain ⟨closed', entries, log, quiet⟩ := ih (armed.after allowed) still_closed later
      refine ⟨closed', w.entryOf h :: entries, ?_, ?_⟩
      · rw [log, Watch.after, List.append_assoc]
        rfl
      · intro e mem
        rcases List.mem_cons.1 mem with rfl | mem
        · exact armed.callOf_closed closed allowed
        · exact quiet e mem
    next => exact ih armed closed later

/-- How a status monitor, its timers and what is under way fit together. -/
structure Coherent (w : Watch) : Prop where
  timers : SoleTimer w.monitor w.run.timers
  /-- While no task is open no timer ticks, and until a task is opened no call is made. -/
  silent : w.monitor.task = none →
    (∀ handle, w.allows (.tick handle) = false) ∧
    ∀ hs : List Happening, (∀ h ∈ hs, h.opens = false) →
      ∃ entries : List LogEntry, (hs.foldl next w).log = w.log ++ entries ∧
        ∀ e ∈ entries, e.call = none
  /-- What is under way is of the current generation or of an earlier one. -/
  underWay : ∀ origin, w.isUnderWay origin = true →
    ∃ fetch, w.call? origin = some fetch ∧ fetch.generation ≤ w.monitor.generation
  /-- Openings and closings start a later generation. -/
  switches : ∀ h : Happening, h.isSwitch = true →
    w.monitor.generation < (w.next h).monitor.generation

/-- A watch whose held timer was not stopped is coherent. -/
theorem Armed.coherent {w : Watch} (armed : w.Armed) : w.Coherent where
  timers := armed.soleTimer
  silent closed := by
    refine ⟨fun handle => Bool.eq_false_iff.2 fun allowed => ?_, fun hs none_opened => ?_⟩
    · obtain ⟨t, here, running⟩ := (Option.any_eq_true _ _).1 allowed
      rw [Timer.isRunning, Bool.and_eq_true, Option.isNone_iff_eq_none] at running
      exact armed.soleTimer.idle closed t (List.mem_of_getElem? here) running.1
    · exact (armed.silent closed none_opened).2
  underWay origin under_way := by
    rw [isUnderWay, Bool.and_eq_true] at under_way
    obtain ⟨fetch, called⟩ := Option.isSome_iff_exists.1 under_way.1
    exact ⟨fetch, called, armed.tracks.generation_call_le called⟩
  switches h switch := by
    have allowed : w.allows h = true := by cases h <;> simp_all [Happening.isSwitch, allows]
    rw [next, if_pos allowed, armed.tracks.generation_after switch]
    exact Nat.lt_succ_self _

/-- What an interleaving says of its timers and of what is under way holds of the run that it
follows. -/
theorem Follows.coherent {β : Type} {w : Watch} {run : MonitorRun β} (follows : w.Follows run)
    (armed : w.Armed) : SoleTimer run.monitor run.timers ∧
      ∀ a ∈ run.arrivals, a.content.fetch.generation ≤ run.monitor.generation := by
  rw [← follows.monitor]
  refine ⟨armed.soleTimer.of_core follows.timers, fun a mem => ?_⟩
  obtain ⟨pending, contents, -, awaited⟩ := follows.answers
  rw [← contents] at mem
  obtain ⟨p, listed, rfl⟩ := List.mem_map.1 mem
  exact follows.tracks.generation_call_le (awaited p listed).called

/-- In every interleaving of openings, closings, ticks, refreshes and arrivals, and in every run of
a monitor on a timeline before any backend, a timer is held exactly while a task is open, it is the
only timer that was not stopped, and it fetches the open task in the current generation; nothing
under way is of a later one. -/
theorem coherent_interleave (period : Nat) :
    (∀ hs : List Happening, (interleave period hs).Coherent) ∧
    ∀ (β : Type) (b : Backend β) (backend : β) (actions : List (Action β)),
      let run := ((MonitorRun.start period backend).script b actions).2
      SoleTimer run.monitor run.timers ∧
        ∀ a ∈ run.arrivals, a.content.fetch.generation ≤ run.monitor.generation := by
  refine ⟨fun hs => (armed_interleave period hs).coherent, fun β b backend actions => ?_⟩
  obtain ⟨w, leads, follows⟩ := (follows_start period backend).script b actions
  obtain ⟨hs, rfl⟩ := leads.reached
  exact follows.coherent (armed_interleave period hs)

end Watch

end IngestConsole.Polling
