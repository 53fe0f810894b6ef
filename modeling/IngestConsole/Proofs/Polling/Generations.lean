import IngestConsole.Proofs.Polling.Interleaving

/-!
# Generations follow the history

The invariant `Watch.Tracks` ties generations to histories: the generation of a status monitor is
the number of openings and closings so far, and the generation of a call is that number at the time
of the call.  Hence a call is of the current generation exactly if nothing was opened or closed
since, and only the timer that the monitor holds runs.
-/

set_option autoImplicit false

namespace IngestConsole.Polling

open Service Wire

namespace Watch

/-- Generations, the open task, calls and timers follow the history. -/
structure Tracks (w : Watch) : Prop where
  generation : w.monitor.generation = w.history.countP (·.isSwitch)
  task : w.monitor.task = openTaskOf w.history
  /-- A timer is held while a task is open. -/
  held : w.monitor.timer.isSome = w.monitor.task.isSome
  /-- Only the held timer runs, and it fetches the open task in the current generation. -/
  running : ∀ handle t, w.run.timers[handle]? = some t → t.stopped = none →
    w.monitor.timer = some handle ∧ w.monitor.fetch? = some t.job
  /-- A call is of the generation, and for the task, that were current when it was made. -/
  calls : ∀ origin fetch, w.call? origin = some fetch →
    fetch.generation = (w.history.take (origin + 1)).countP (·.isSwitch) ∧
      openTaskOf (w.history.take (origin + 1)) = some fetch.task
  /-- What arrives is the answer to an earlier call. -/
  arrivals : ∀ place origin result, w.history[place]? = some (.arrive origin result) →
    origin < place ∧ ∃ fetch, w.call? origin = some fetch

/-- The calls of a longer log follow the longer history. -/
theorem Tracks.calls_after {w : Watch} (tracks : w.Tracks) {h : Happening}
    (called : ∀ fetch, w.callOf h = some fetch →
      fetch.generation = (w.history ++ [h]).countP (·.isSwitch) ∧
        openTaskOf (w.history ++ [h]) = some fetch.task) :
    ∀ origin fetch, (w.after h).call? origin = some fetch →
      fetch.generation = ((w.after h).history.take (origin + 1)).countP (·.isSwitch) ∧
        openTaskOf ((w.after h).history.take (origin + 1)) = some fetch.task := by
  intro origin fetch here
  rw [call?_after] at here
  rw [history_after]
  split at here
  next now =>
    have whole : (w.history ++ [h]).take (origin + 1) = w.history ++ [h] :=
      List.take_of_length_le (by simp [now])
    rw [whole]
    exact called fetch here
  next =>
    have earlier := lt_length_of_call? here
    rw [List.take_append_of_le_length (by rw [length_history]; exact earlier)]
    exact tracks.calls origin fetch here

/-- What arrives next is the answer to an earlier call, too. -/
theorem Tracks.arrivals_after {w : Watch} (tracks : w.Tracks) {h : Happening}
    (allowed : w.allows h = true) :
    ∀ place origin result, (w.after h).history[place]? = some (.arrive origin result) →
      origin < place ∧ ∃ fetch, (w.after h).call? origin = some fetch := by
  intro place origin result here
  suffices earlier : origin < place ∧ ∃ fetch, w.call? origin = some fetch by
    obtain ⟨before, fetch, called⟩ := earlier
    refine ⟨before, fetch, ?_⟩
    rw [call?_after, if_neg (Nat.ne_of_lt (lt_length_of_call? called)), called]
  rw [history_after, List.getElem?_append] at here
  split at here
  next => exact tracks.arrivals place origin result here
  next late =>
    rw [List.getElem?_singleton] at here
    split at here
    next =>
      obtain rfl := Option.some.inj here
      obtain ⟨fetch, called⟩ := called_of_allows allowed
      have before := lt_length_of_call? called
      rw [length_history] at late
      exact ⟨by omega, fetch, called⟩
    next => simp at here

/-- What neither opens nor closes keeps the invariant, if a call that it makes is the one that
would fetch the open task now. -/
theorem Tracks.after_quiet {w : Watch} (tracks : w.Tracks) {h : Happening}
    (allowed : w.allows h = true) (quiet : h.isSwitch = false)
    (called : w.callOf h = none ∨ w.callOf h = w.monitor.fetch?) : (w.after h).Tracks := by
  obtain ⟨timers, task, timer, generation⟩ := w.runAfter_of_not_isSwitch quiet
  have count : (w.history ++ [h]).countP (·.isSwitch) = w.history.countP (·.isSwitch) := by
    simp [quiet]
  have opened : openTaskOf (w.history ++ [h]) = openTaskOf w.history := by
    rw [openTaskOf_append, Happening.openAfter_of_not_isSwitch quiet]
  constructor
  · rw [history_after, count, ← tracks.generation]
    exact generation
  · rw [history_after, opened, ← tracks.task]
    exact task
  · change (w.runAfter h).monitor.timer.isSome = (w.runAfter h).monitor.task.isSome
    rw [timer, task, tracks.held]
  · intro handle t here runs
    have before := tracks.running handle t (timers ▸ here) runs
    simpa [after, monitor, StatusMonitor.fetch?, timer, task, generation] using before
  · refine tracks.calls_after fun fetch made => ?_
    rcases called with nothing | current
    · simp [nothing] at made
    · rw [current, StatusMonitor.fetch?, Option.map_eq_some_iff] at made
      obtain ⟨open_task, is_open, rfl⟩ := made
      rw [count, opened, ← tracks.task, ← tracks.generation]
      exact ⟨rfl, is_open⟩
  · exact tracks.arrivals_after allowed

/-- An opening or a closing keeps the invariant if it starts the next generation and leaves no
timer running but the one that it holds. -/
theorem Tracks.after_switch {w : Watch} (tracks : w.Tracks) {h : Happening}
    (switch : h.isSwitch = true)
    (generation : (w.runAfter h).monitor.generation = w.monitor.generation + 1)
    (task : (w.runAfter h).monitor.task = h.openAfter w.monitor.task)
    (held : (w.runAfter h).monitor.timer.isSome = (w.runAfter h).monitor.task.isSome)
    (running : ∀ handle t, (w.runAfter h).timers[handle]? = some t → t.stopped = none →
      (w.runAfter h).monitor.timer = some handle ∧
        (w.runAfter h).monitor.fetch? = some t.job) :
    (w.after h).Tracks := by
  have no_call : w.callOf h = none := by cases h <;> simp_all [Happening.isSwitch, callOf]
  have allowed : w.allows h = true := by cases h <;> simp_all [Happening.isSwitch, allows]
  constructor
  · have count : (w.history ++ [h]).countP (·.isSwitch) = w.monitor.generation + 1 := by
      simp [switch, tracks.generation]
    rw [history_after, count]
    exact generation
  · rw [history_after, openTaskOf_append, ← tracks.task]
    exact task
  · exact held
  · exact running
  · exact tracks.calls_after fun fetch made => by simp [no_call] at made
  · exact tracks.arrivals_after allowed

/-- Once the held timer is stopped no timer runs. -/
theorem Tracks.stopped_of_stop {w : Watch} (tracks : w.Tracks) {handle : Nat} {t : Timer Fetch}
    (h : (w.run.stop w.monitor.timer).timers[handle]? = some t) : t.stopped ≠ none := by
  cases held : w.monitor.timer with
  | none =>
    rw [held] at h
    intro runs
    have := (tracks.running handle t h runs).1
    simp [held] at this
  | some holder =>
    simp only [held, Timeline.stop, List.getElem?_modify] at h
    split at h
    next same =>
      obtain ⟨before, -, rfl⟩ := Option.map_eq_some_iff.1 h
      simp [Timer.stop]
    next other =>
      simp only [id_map'] at h
      intro runs
      have := (tracks.running handle t h runs).1
      simp only [held, Option.some.injEq] at this
      exact other this

/-- Closing keeps the invariant, and so does the opening of no task. -/
theorem Tracks.after_close {w : Watch} (tracks : w.Tracks) {h : Happening}
    (switch : h.isSwitch = true) (closes : w.runAfter h = w.run.close)
    (task : h.openAfter w.monitor.task = none) : (w.after h).Tracks := by
  refine tracks.after_switch switch ?_ ?_ ?_ fun handle t here runs => ?_
  · rw [closes]; rfl
  · rw [closes, task]; rfl
  · rw [closes]; rfl
  · rw [closes] at here
    exact absurd runs (tracks.stopped_of_stop here)

/-- Opening a task keeps the invariant. -/
theorem Tracks.after_openTask {w : Watch} (tracks : w.Tracks) {task : String} (named : task ≠ "") :
    (w.after (.openTask (some task))).Tracks := by
  have monitor := w.run.monitor_openTask named
  have timers := w.run.timers_openTask named
  -- stopping a timer keeps its place, so the new one stands behind all that were there
  have length : (w.run.stop w.monitor.timer).timers.length = w.run.timers.length := by
    cases w.monitor.timer <;> simp [Timeline.stop]
  refine tracks.after_switch rfl ?_ ?_ ?_ fun handle t here runs => ?_
  · simp only [runAfter, monitor]; rfl
  · simp [runAfter, monitor, Happening.openAfter, named]
  · simp [runAfter, monitor]
  · simp only [runAfter, timers, List.getElem?_append] at here
    split at here
    next => exact absurd runs (tracks.stopped_of_stop here)
    next old =>
      rw [List.getElem?_singleton] at here
      split at here
      next first =>
        obtain rfl := Option.some.inj here
        have last : handle = w.run.timers.length := by
          rw [← length]
          exact Nat.le_antisymm (Nat.sub_eq_zero_iff_le.1 first) (Nat.le_of_not_lt old)
        simp only [runAfter, monitor, last]
        exact ⟨rfl, rfl⟩
      next => simp at here

/-- A tick that may happen calls for the open task, as every refresh does. -/
theorem Tracks.callOf_tick {w : Watch} (tracks : w.Tracks) {handle : Nat}
    (allowed : w.allows (.tick handle) = true) : w.callOf (.tick handle) = w.monitor.fetch? := by
  obtain ⟨t, here, running⟩ := (Option.any_eq_true _ _).1 allowed
  have not_stopped : t.stopped = none := by
    simp only [Timer.isRunning, Bool.and_eq_true, Option.isNone_iff_eq_none] at running
    exact running.1
  rw [callOf, here, (tracks.running handle t here not_stopped).2]
  rfl

/-- Whatever may happen, the watch keeps track of its calls and timers. -/
theorem Tracks.after {w : Watch} (tracks : w.Tracks) {h : Happening}
    (allowed : w.allows h = true) : (w.after h).Tracks := by
  cases h with
  | openTask task =>
    cases task with
    | none => exact tracks.after_close rfl w.run.openTask_none rfl
    | some task =>
      by_cases named : task = ""
      · subst named
        exact tracks.after_close rfl w.run.openTask_empty rfl
      · exact tracks.after_openTask named
  | close => exact tracks.after_close rfl rfl rfl
  | tick handle => exact tracks.after_quiet allowed rfl (Or.inr (tracks.callOf_tick allowed))
  | refresh => exact tracks.after_quiet allowed rfl (Or.inr rfl)
  | arrive origin result => exact tracks.after_quiet allowed rfl (Or.inl rfl)

/-- A watch starts on track. -/
theorem tracks_start (period : Nat) : (start period).Tracks := by
  refine ⟨rfl, rfl, rfl, ?_, ?_, ?_⟩
  · simp [start, MonitorRun.start]
  · simp [start, call?]
  · simp [start, history]

/-- The generation of a call is the current one exactly if nothing was opened or closed since. -/
theorem Tracks.generation_eq_iff {w : Watch} (tracks : w.Tracks) {origin : Nat} {fetch : Fetch}
    (called : w.call? origin = some fetch) :
    fetch.generation = w.monitor.generation ↔
      ∀ x ∈ w.history.drop (origin + 1), x.isSwitch = false := by
  have split : w.history.countP (·.isSwitch) =
      (w.history.take (origin + 1)).countP (·.isSwitch) +
        (w.history.drop (origin + 1)).countP (·.isSwitch) := by
    rw [← List.countP_append, List.take_append_drop]
  rw [(tracks.calls origin fetch called).1, tracks.generation, split, Nat.left_eq_add,
    List.countP_eq_zero]
  simp

/-- The monitor accepts an answer exactly if the history does. -/
theorem Tracks.accepts_iff {w : Watch} (tracks : w.Tracks) {origin : Nat} {fetch : Fetch}
    (called : w.call? origin = some fetch) (result : Except CallError StatusSnapshot) :
    w.monitor.accepts { fetch, result } = true ↔
      ∃ value, Accepts w.history value (.arrive origin result) := by
  rw [StatusMonitor.accepts_iff, tracks.generation_eq_iff called]
  constructor
  · rintro ⟨current, value, rfl⟩
    exact ⟨value, origin, rfl, current⟩
  · rintro ⟨value, origin', same, current⟩
    simp only [Happening.arrive.injEq] at same
    obtain ⟨rfl, rfl⟩ := same
    exact ⟨current, value, rfl⟩

end Watch

end IngestConsole.Polling
