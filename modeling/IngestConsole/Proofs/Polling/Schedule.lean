import IngestConsole.Polling.Timeline
import Mathlib.Algebra.Order.Floor.Div
import Mathlib.Data.List.Basic

/-!
# Timers keep their schedule

A timer that is armed at an instant `T` with the period `P` ticks at `T`, `T + P`, `T + 2P` and so
on, and at no other instant, until it is stopped.  Whatever handlers do with the ticks, and however
many answers are under way, a clock that ran to an instant has let exactly the ticks happen whose
instants it has passed.
-/

set_option autoImplicit false

namespace IngestConsole.Polling

namespace Timer

variable {τ : Type}

/-! ## Timers on schedule -/

/-- No tick happened too early or after the timer was stopped, and up to the stop none is
missing. -/
structure NotAhead (now : Nat) (t : Timer τ) : Prop where
  started : t.start ≤ now
  running : t.stopped = none → ∀ k, k < t.ticks → t.start + k * t.period < now
  stopped : ∀ stop, t.stopped = some stop →
    stop ≤ now ∧ ∀ k, k < t.ticks ↔ t.start + k * t.period < stop

/-- The ticks so far are exactly those whose instants the clock has passed. -/
structure OnSchedule (now : Nat) (t : Timer τ) : Prop extends NotAhead now t where
  waiting : t.stopped = none → now ≤ t.due

/-- A timer that is not ahead of an instant is not ahead of later ones. -/
theorem NotAhead.mono {now later : Nat} {t : Timer τ} (h : t.NotAhead now) (le : now ≤ later) :
    t.NotAhead later where
  started := h.started.trans le
  running runs k before := (h.running runs k before).trans_le le
  stopped stop here := ⟨(h.stopped stop here).1.trans le, (h.stopped stop here).2⟩

/-- A timer that is due before the horizon is not ahead of it after one more tick. -/
theorem NotAhead.advance {horizon : Nat} {t : Timer τ} (h : t.NotAhead horizon)
    (runs : t.stopped = none) (due : t.due < horizon) : t.advance.NotAhead horizon where
  started := h.started
  running _ k before := by
    rcases Nat.lt_succ_iff_lt_or_eq.1 before with earlier | rfl
    · exact h.running runs k earlier
    · exact due
  stopped stop here := by
    rw [Timer.advance, runs] at here
    cases here

/-- A timer that was just started is on schedule. -/
theorem onSchedule_of_armed (job : τ) (now period : Nat) :
    OnSchedule now { job, start := now, period } where
  started := Nat.le_refl _
  running _ k before := absurd before (Nat.not_lt_zero k)
  stopped stop here := by cases here
  waiting _ := Nat.le_add_right _ _

/-- The ticks of a timer on schedule, by their instants. -/
theorem OnSchedule.lt_ticks_iff {now k : Nat} {t : Timer τ} (h : t.OnSchedule now) :
    k < t.ticks ↔ t.start + k * t.period < t.stopped.getD now := by
  cases here : t.stopped with
  | some stop => exact (h.stopped stop here).2 k
  | none =>
    refine ⟨h.running here k, fun before => Nat.lt_of_not_le fun beyond => ?_⟩
    have later : t.due ≤ t.start + k * t.period :=
      Nat.add_le_add_left (Nat.mul_le_mul_right _ beyond) _
    exact absurd (h.waiting here) (Nat.not_le_of_lt (later.trans_lt before))

/-- Stopping a timer keeps it on schedule. -/
theorem OnSchedule.stop {now : Nat} {t : Timer τ} (h : t.OnSchedule now) :
    (t.stop now).OnSchedule now where
  started := h.started
  running runs := by cases runs
  stopped stop here := by
    obtain rfl := Option.some.inj here
    refine ⟨?_, fun k => h.lt_ticks_iff⟩
    cases before : t.stopped with
    | none => exact Nat.le_refl _
    | some earlier => exact (h.stopped earlier before).1
  waiting runs := by cases runs

/-! ## Instants of ticks -/

/-- The instants of the ticks so far. -/
def instants (t : Timer τ) : List Nat :=
  (List.range t.ticks).map fun k => t.start + k * t.period

/-- A further tick is at the instant at which the timer was due. -/
theorem instants_advance (t : Timer τ) : t.advance.instants = t.instants ++ [t.due] := by
  show (List.range (t.ticks + 1)).map (fun k => t.start + k * t.period) = _
  rw [List.range_succ, List.map_append]
  rfl

/-- A stopped timer does not stop again. -/
theorem stop_of_stopped {t : Timer τ} (stopped : t.stopped ≠ none) (now : Nat) :
    t.stop now = t := by
  obtain ⟨stop, here⟩ := Option.ne_none_iff_exists'.1 stopped
  rw [Timer.stop, here, Option.getD_some, ← here]

end Timer

/-- The ticks of something that was armed at an instant with a period, and stopped or not, are
those at every period from the first instant on that lie before the stop and that the clock has
passed. -/
structure TickedAt (start period : Nat) (stopped : Option Nat) (now : Nat) (ticks : List Nat) :
    Prop where
  /-- One after another. -/
  increasing : ticks.Pairwise (· < ·)
  /-- At their instants only, and at all of them. -/
  mem_iff : ∀ instant, instant ∈ ticks ↔
    (∃ k, instant = start + k * period) ∧ (∀ stop, stopped = some stop → instant < stop) ∧
      instant < now
  /-- As many as periods have begun. -/
  length : ticks.length = (stopped.getD now - start) ⌈/⌉ period

/-- A number of periods is passed when as many of them have begun. -/
theorem eq_ceilDiv_of_lt_iff {start period stop n : Nat} (positive : 0 < period)
    (h : ∀ k, k < n ↔ start + k * period < stop) : n = (stop - start) ⌈/⌉ period := by
  have lt_ceilDiv_iff (k : Nat) : k < (stop - start) ⌈/⌉ period ↔ k < n := by
    rw [← Nat.not_le, ceilDiv_le_iff_le_mul positive, Nat.mul_comm, h]
    omega
  exact Nat.le_antisymm (Nat.le_of_not_lt fun lt => Nat.lt_irrefl _ ((lt_ceilDiv_iff _).2 lt))
    (Nat.le_of_not_lt fun lt => Nat.lt_irrefl _ ((lt_ceilDiv_iff _).1 lt))

/-- A timer on schedule ticked at every multiple of its period while it ran. -/
theorem Timer.OnSchedule.tickedAt {τ : Type} {now : Nat} {t : Timer τ} (h : t.OnSchedule now)
    (positive : 0 < t.period) : TickedAt t.start t.period t.stopped now t.instants where
  increasing := by
    rw [Timer.instants, List.pairwise_map]
    refine List.pairwise_lt_range.imp fun less => ?_
    exact Nat.add_lt_add_left (Nat.mul_lt_mul_of_pos_right less positive) _
  mem_iff instant := by
    have passed (k : Nat) : k < t.ticks ↔
        (∀ stop, t.stopped = some stop → t.start + k * t.period < stop) ∧
          t.start + k * t.period < now := by
      rw [h.lt_ticks_iff]
      cases here : t.stopped with
      | none => simp
      | some stop =>
        refine ⟨fun before => ?_, fun before => before.1 stop rfl⟩
        refine ⟨fun other same => Option.some.inj same ▸ before, ?_⟩
        exact before.trans_le (h.stopped stop here).1
    rw [Timer.instants, List.mem_map]
    constructor
    · rintro ⟨k, mem, rfl⟩
      exact ⟨⟨k, rfl⟩, (passed k).1 (List.mem_range.1 mem)⟩
    · rintro ⟨⟨k, rfl⟩, before⟩
      exact ⟨k, List.mem_range.2 ((passed k).2 before), rfl⟩
  length := by
    rw [Timer.instants, List.length_map, List.length_range]
    exact eq_ceilDiv_of_lt_iff positive fun k => h.lt_ticks_iff

namespace Timeline

variable {τ δ σ γ : Type}

/-! ## What is due -/

/-- What is due first is the answer or the tick of a running timer at its instant. -/
theorem nextDue?_cases {tl : Timeline τ δ σ} {horizon instant : Nat} {event : Event}
    (due : tl.nextDue? horizon = some (instant, event)) : instant < horizon ∧
      ((∃ place a, event = .arrival place ∧ tl.arrivals[place]? = some a) ∨
        ∃ place t, event = .tick place ∧ tl.timers[place]? = some t ∧ t.stopped = none ∧
          t.due = instant) := by
  obtain ⟨listed, before⟩ := List.mem_filter.1 (mem_of_earliest? due)
  refine ⟨by simpa using before, ?_⟩
  cases event with
  | arrival place =>
    have within := lt_length_of_arrival_mem_agenda listed
    exact Or.inl ⟨place, _, rfl, List.getElem?_eq_getElem within⟩
  | tick place =>
    obtain ⟨within, running, at_instant⟩ := running_of_tick_mem_agenda listed
    rw [Timer.isRunning, Bool.and_eq_true, Option.isNone_iff_eq_none] at running
    exact Or.inr ⟨place, _, rfl, List.getElem?_eq_getElem within, running.1, at_instant⟩

/-- There is an earliest event unless there is none at all. -/
theorem earliest?_eq_none_iff {entries : List (Nat × Event)} :
    earliest? entries = none ↔ entries = [] := by
  cases entries with
  | nil => simp [earliest?]
  | cons entry rest =>
    rw [earliest?]
    split
    · simp
    · split <;> simp

/-- When nothing is due before an instant, no running timer ticks before it. -/
theorem le_due_of_nextDue?_eq_none {tl : Timeline τ δ σ} {horizon : Nat}
    (idle : tl.nextDue? horizon = none) {t : Timer τ} (mem : t ∈ tl.timers)
    (running : t.isRunning = true) : horizon ≤ t.due := by
  rw [nextDue?, earliest?_eq_none_iff, List.filter_eq_nil_iff] at idle
  obtain ⟨place, within, rfl⟩ := List.mem_iff_getElem.1 mem
  have listed : (tl.timers[place].due, Event.tick place) ∈ tl.agenda := by
    refine List.mem_append_right _ (List.mem_filterMap.2 ⟨(tl.timers[place], place), ?_, ?_⟩)
    · rw [List.mk_mem_zipIdx_iff_getElem?, List.getElem?_eq_getElem within]
    · simp [running]
  simpa using idle _ listed

/-! ## Performing what is due -/

/-- A tick advances its timer and is handled. -/
theorem perform_tick (tl : Timeline τ δ σ) (h : Handlers τ δ σ) (now : Nat) {place : Nat}
    {t : Timer τ} (here : tl.timers[place]? = some t) :
    tl.perform h now (.tick place) =
      { now, timers := tl.timers.set place t.advance, state := (h.tick now t.job tl.state).2
        arrivals := tl.arrivals ++ (h.tick now t.job tl.state).1.toList.map
          fun (delay, content) => { instant := now + delay, content } } := by
  rw [perform, here]

/-- An answer that arrives is taken off the line and handled. -/
theorem perform_arrival (tl : Timeline τ δ σ) (h : Handlers τ δ σ) (now : Nat) {place : Nat}
    {a : Arrival δ} (here : tl.arrivals[place]? = some a) :
    tl.perform h now (.arrival place) =
      { tl with
        now, arrivals := tl.arrivals.eraseIdx place
        state := h.arrive now a.content tl.state } := by
  rw [perform, here]

/-- Notes on what happens before an instant, each one taken when something is about to happen. -/
def record (note : Timeline τ δ σ → Nat → Event → List γ) (tl : Timeline τ δ σ)
    (h : Handlers τ δ σ) (horizon : Nat) : List γ :=
  match _due : tl.nextDue? horizon with
  | some (instant, event) =>
    note tl instant event ++ (tl.perform h instant event).record note h horizon
  | none => []
termination_by tl.workload horizon
decreasing_by exact workload_perform_lt h _due

/-- What holds of notes and a timeline, and is kept by everything that is due before an instant,
holds when nothing is due before the instant any more. -/
theorem runTo_induction (note : Timeline τ δ σ → Nat → Event → List γ) (h : Handlers τ δ σ)
    (horizon : Nat) {P : List γ → Timeline τ δ σ → Prop}
    (step : ∀ log tl instant event, P log tl → tl.nextDue? horizon = some (instant, event) →
      P (log ++ note tl instant event) (tl.perform h instant event))
    (log : List γ) (tl : Timeline τ δ σ) (start : P log tl) :
    ∃ last : Timeline τ δ σ, P (log ++ tl.record note h horizon) last ∧
      last.nextDue? horizon = none ∧ tl.runTo h horizon = { last with now := horizon } := by
  fun_induction runTo tl h horizon generalizing log with
  | case1 tl instant event due ih =>
    obtain ⟨last, holds, idle, ran⟩ := ih _ (step log tl instant event start due)
    refine ⟨last, ?_, idle, ran⟩
    rw [record]
    split
    next instant' event' due' =>
      obtain ⟨rfl, rfl⟩ := Prod.mk.inj (Option.some.inj (due.symm.trans due'))
      rwa [← List.append_assoc]
    next idle' => rw [due] at idle'; cases idle'
  | case2 tl idle =>
    refine ⟨tl, ?_, idle, rfl⟩
    rw [record]
    split
    next instant' event' due' => rw [idle] at due'; cases due'
    next => rwa [List.append_nil]

/-- Running to a horizon ends at it. -/
theorem now_runTo (tl : Timeline τ δ σ) (h : Handlers τ δ σ) (horizon : Nat) :
    (tl.runTo h horizon).now = horizon := by
  obtain ⟨last, -, -, ran⟩ := runTo_induction (γ := Unit) (fun _ _ _ => []) h horizon
    (P := fun _ _ => True) (fun _ _ _ _ _ _ => trivial) [] tl trivial
  rw [ran]

/-! ## Timelines on schedule -/

/-- Every timer is on schedule. -/
def Scheduled (tl : Timeline τ δ σ) : Prop :=
  ∀ t ∈ tl.timers, 0 < t.period ∧ t.OnSchedule tl.now

/-- Stopping a handle stops the timer at its place and no other. -/
theorem getElem?_timers_stop (tl : Timeline τ δ σ) (handle : Option Nat) (place : Nat) :
    (tl.stop handle).timers[place]? =
      tl.timers[place]?.map fun t => if handle = some place then t.stop tl.now else t := by
  cases handle with
  | none => simp [Timeline.stop]
  | some held => simp [Timeline.stop, List.getElem?_modify]

/-- Stopping a timer keeps the line on schedule. -/
theorem Scheduled.stop {tl : Timeline τ δ σ} (scheduled : tl.Scheduled) (handle : Option Nat) :
    (tl.stop handle).Scheduled := by
  intro t mem
  obtain ⟨place, here⟩ := List.mem_iff_getElem?.1 mem
  rw [getElem?_timers_stop] at here
  obtain ⟨before, there, rfl⟩ := Option.map_eq_some_iff.1 here
  have now : (tl.stop handle).now = tl.now := by cases handle <;> rfl
  obtain ⟨positive, on_schedule⟩ := scheduled before (List.mem_of_getElem? there)
  rw [now]
  split
  · exact ⟨positive, on_schedule.stop⟩
  · exact ⟨positive, on_schedule⟩

/-- However ticks and answers follow one another, a clock that ran to an instant has let exactly
the ticks happen that were due before it. -/
theorem Scheduled.runTo {tl : Timeline τ δ σ} (scheduled : tl.Scheduled) (h : Handlers τ δ σ)
    {horizon : Nat} (later : tl.now ≤ horizon) : (tl.runTo h horizon).Scheduled := by
  -- between two events no timer is ahead of the instant that the clock runs to
  let Waiting (_ : List Unit) (tl : Timeline τ δ σ) : Prop :=
    ∀ t ∈ tl.timers, 0 < t.period ∧ t.NotAhead horizon
  have start : Waiting [] tl := fun t mem =>
    ⟨(scheduled t mem).1, (scheduled t mem).2.toNotAhead.mono later⟩
  have step : ∀ (log : List Unit) (tl : Timeline τ δ σ) (instant : Nat) (event : Event),
      Waiting log tl → tl.nextDue? horizon = some (instant, event) →
        Waiting (log ++ []) (tl.perform h instant event) := by
    intro log tl instant event waiting due
    obtain ⟨before, ⟨place, a, rfl, here⟩ | ⟨place, t, rfl, here, runs, rfl⟩⟩ := nextDue?_cases due
    · rw [perform_arrival tl h instant here]
      exact waiting
    · rw [perform_tick tl h t.due here]
      intro t' mem
      rcases List.mem_or_eq_of_mem_set mem with old | rfl
      · exact waiting t' old
      · obtain ⟨positive, not_ahead⟩ := waiting t (List.mem_of_getElem? here)
        exact ⟨positive, not_ahead.advance runs before⟩
  obtain ⟨last, waiting, idle, ran⟩ := runTo_induction (fun _ _ _ => []) h horizon step [] tl start
  rw [ran]
  intro t mem
  obtain ⟨positive, not_ahead⟩ := waiting t mem
  refine ⟨positive, not_ahead, fun runs => le_due_of_nextDue?_eq_none idle mem ?_⟩
  simp [Timer.isRunning, runs, Nat.ne_of_gt positive]

end Timeline

end IngestConsole.Polling
