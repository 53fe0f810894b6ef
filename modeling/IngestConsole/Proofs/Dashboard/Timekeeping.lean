import IngestConsole.Proofs.Dashboard.Deeds

/-!
# Sessions keep time

The timers of a session are those that its log tells of, and each of them is on schedule.  An action
stops and arms timers; everything else, be it an answer, a failure or a refresh, leaves them to tick
as the clock runs.
-/

set_option autoImplicit false

namespace IngestConsole.Dashboard

open Polling Service

/-! ## What timers depend on -/

/-- What of a dashboard its timers depend on. -/
@[ext]
structure Controls where
  tab : Tab
  task : Option String
  timer : Dial → Option Nat
  period : Dial → Nat

/-- What the timers of a dashboard depend on. -/
def controls (d : Dashboard) : Controls where
  tab := d.tab
  task := d.status.task
  timer
    | .overview => d.overviewTimer
    | .status => d.status.timer
  period
    | .overview => d.overviewPeriod
    | .status => d.status.period

/-- A reply does not change the controls. -/
theorem controls_absorb (d : Dashboard) (r : Reply) : (d.absorb r).controls = d.controls := by
  rcases r with ⟨e, result⟩
  cases e <;> cases result <;> rfl

/-- Replies do not change the controls. -/
theorem controls_foldl_absorb (rs : List Reply) (d : Dashboard) :
    (rs.foldl absorb d).controls = d.controls := by
  induction rs generalizing d with
  | nil => rfl
  | cons r rs ih => rw [List.foldl_cons, ih, controls_absorb]

/-- An answer to a status call does not change the controls. -/
theorem controls_take (d : Dashboard) (f : Fetched) :
    ({ d with status := d.status.take f } : Dashboard).controls = d.controls := by
  unfold StatusMonitor.take
  split <;> rfl

/-- Opening a task hands its timer to the controls. -/
theorem controls_opened (d : Dashboard) (task : String) (handle : Nat) :
    ({ d with status := d.status.opened task handle } : Dashboard).controls =
      { d.controls with
        task := some task
        timer := fun | .overview => d.overviewTimer | .status => some handle } := by
  have period : (d.status.opened task handle).period = d.status.period := by simp
  simp only [controls, period, StatusMonitor.task_opened, StatusMonitor.timer_opened]

/-- Closing the status takes the timer from the controls. -/
theorem controls_closed (d : Dashboard) :
    ({ d with status := d.status.closed } : Dashboard).controls =
      { d.controls with
        task := none
        timer := fun | .overview => d.overviewTimer | .status => none } := by
  have period : d.status.closed.period = d.status.period := d.status.period_clear
  simp only [controls, period, StatusMonitor.task_closed, StatusMonitor.timer_closed]

namespace Session

variable {β : Type}

/-- The answer of a poll does not change the controls. -/
theorem controls_arrive (b : Backend β) (now : Nat) (a : Answer) (s : Dashboard × β) :
    ((handlers b).arrive now a s).1.controls = s.1.controls := by
  cases a with
  | overview result => exact controls_absorb s.1 _
  | status fetched => exact controls_take s.1 fetched

/-- The job of a timer that is armed now. -/
def job (s : Session β) : Purpose → Job
  | .overview => .overview
  | .status task => .status { task, generation := s.dashboard.status.generation + 1 }

/-- The job of a purpose serves that purpose. -/
theorem purpose_job (s : Session β) (purpose : Purpose) : (s.job purpose).purpose = purpose := by
  cases purpose <;> rfl

/-- The timer that an action arms. -/
def armed (s : Session β) (a : Action) : Option (Timer Job) :=
  a.arms.map fun purpose =>
    { job := s.job purpose, start := s.now, period := s.dashboard.controls.period purpose.dial }

/-- An action stops the timer in whose place it arms another one. -/
theorem timers_begin (s : Session β) (a : Action) :
    (s.begin a).timers =
      (Timeline.stop s (a.stops.bind s.dashboard.controls.timer)).timers ++ (s.armed a).toList := by
  have unarmed (handle : Option Nat) :
      (Timeline.stop s handle).timers = (Timeline.stop s handle).timers ++ [] :=
    (List.append_nil _).symm
  cases a with
  | operate o => cases o <;> exact unarmed none
  | startOverview =>
    show (Timeline.stop s s.dashboard.overviewTimer).timers
      ++ [⟨.overview, (Timeline.stop s s.dashboard.overviewTimer).now, _, 0, none⟩] = _
    rw [now_stop]
    rfl
  | stopOverview => exact unarmed s.dashboard.overviewTimer
  | openStatus task =>
    by_cases empty : task.isEmpty = true
    · simp only [begin, openStatus, StatusMonitor.openOn, empty, if_true, armed, Action.arms]
      exact unarmed s.dashboard.status.timer
    · simp only [begin, openStatus, StatusMonitor.openOn, empty, armed, Action.arms]
      show (Timeline.stop s s.dashboard.status.timer).timers
        ++ [⟨_, (Timeline.stop s s.dashboard.status.timer).now,
          (s.dashboard.status.opened task s.nextHandle).period, 0, none⟩] = _
      rw [now_stop, StatusMonitor.period_opened]
      rfl
  | closeStatus => exact unarmed s.dashboard.status.timer
  | select op => exact unarmed none
  | sleep time => exact unarmed none

/-- An action changes the tab or the open task, and puts the timer that it arms in the place of the
one that it stops. -/
theorem controls_begin (s : Session β) (a : Action) :
    (s.begin a).dashboard.controls =
      { s.dashboard.controls with
        tab := a.tabAfter s.dashboard.tab
        task := a.taskAfter s.dashboard.status.task
        timer := fun dial =>
          if a.stops = some dial then a.arms.map fun _ => s.timers.length
          else s.dashboard.controls.timer dial } := by
  rw [dashboard_begin]
  cases a with
  | operate o => cases o <;> rfl
  | openStatus task =>
    rw [Action.onDashboard, Action.stops, Action.arms, Action.taskAfter]
    by_cases empty : task.isEmpty = true
    · rw [if_pos empty, if_pos empty, if_pos empty, controls_closed]
      exact Controls.ext rfl rfl (funext fun dial => by cases dial <;> rfl) rfl
    · rw [if_neg empty, if_neg empty, if_neg empty, controls_opened]
      exact Controls.ext rfl rfl (funext fun dial => by cases dial <;> rfl) rfl
  | closeStatus =>
    rw [Action.onDashboard, controls_closed]
    exact Controls.ext rfl rfl (funext fun dial => by cases dial <;> rfl) rfl
  | startOverview => exact Controls.ext rfl rfl (funext fun dial => by cases dial <;> rfl) rfl
  | stopOverview => exact Controls.ext rfl rfl (funext fun dial => by cases dial <;> rfl) rfl
  | select op => rfl
  | sleep time => rfl

end Session

/-! ## Timers and the log -/

/-- The timers of a session are those of its log, and they ticked as the log says. -/
structure Kept (settings : Settings) (log : List Entry) (timers : List (Timer Job)) (c : Controls) :
    Prop where
  tab : c.tab = shownTab (deeds log)
  task : c.task = openTask (deeds log)
  leases : timers.map Lease.of = leases (deeds log)
  period : ∀ dial, c.period dial = dial.period settings
  periods : ∀ t ∈ timers, t.period = t.job.purpose.dial.period settings
  /-- A timer that was not stopped is held. -/
  held : ∀ (handle : Nat) t, timers[handle]? = some t → t.stopped = none →
    c.timer t.job.purpose.dial = some handle
  /-- What is held is a timer, and one of its kind. -/
  holds : ∀ dial handle, c.timer dial = some handle →
    ∃ t, timers[handle]? = some t ∧ t.job.purpose.dial = dial
  ticks : ∀ handle : Nat, tickInstants handle log = (timers[handle]?.map Timer.instants).getD []
  fits : ∀ e ∈ log, e.Fits (deeds log)

section Kept

variable {settings : Settings} {log : List Entry} {timers : List (Timer Job)} {c : Controls}

/-- What is neither a deed nor a tick changes nothing about timers. -/
theorem Kept.quiet (kept : Kept settings log timers c) {entries : List Entry}
    (quiet : ∀ e ∈ entries, e.isQuiet = true) : Kept settings (log ++ entries) timers c := by
  have same : deeds (log ++ entries) = deeds log := by
    rw [deeds_append, deeds_of_isQuiet quiet, List.append_nil]
  refine { kept with tab := ?_, task := ?_, leases := ?_, ticks := fun handle => ?_, fits := ?_ }
  · rw [same, kept.tab]
  · rw [same, kept.task]
  · rw [same, kept.leases]
  · rw [tickInstants_append, tickInstants_of_isQuiet quiet, List.append_nil, kept.ticks]
  · intro e mem
    rw [same]
    rcases List.mem_append.1 mem with before | new
    · exact kept.fits e before
    · exact Entry.fits_of_isQuiet (quiet e new) _

/-- A tick of a timer that was not stopped, after everything that was done so far. -/
theorem Kept.tick (kept : Kept settings log timers c) {handle : Nat} {t : Timer Job}
    (here : timers[handle]? = some t) (past : ∀ d ∈ deeds log, d.instant ≤ t.due) :
    Kept settings (log ++ [{ instant := t.due, incident := .tick handle t.job c.tab }])
      (timers.set handle t.advance) c := by
  have same : deeds (log ++ [{ instant := t.due, incident := .tick handle t.job c.tab }]) =
      deeds log := (deeds_append _ _).trans (List.append_nil _)
  have within : handle < timers.length := (List.getElem?_eq_some_iff.1 here).1
  have at_set (place : Nat) : (timers.set handle t.advance)[place]? =
      if handle = place then some t.advance else timers[place]? := by
    rw [List.getElem?_set, if_pos within]
  refine { tab := ?tab, task := ?task, leases := ?leases, period := kept.period
           periods := ?periods, held := ?held, holds := ?holds, ticks := ?ticks, fits := ?fits }
  case tab =>
    rw [same, kept.tab]
  case task =>
    rw [same, kept.task]
  case leases =>
    rw [same, ← kept.leases]
    refine List.ext_getElem? fun place => ?_
    rw [List.getElem?_map, List.getElem?_map, at_set]
    split
    next at_handle => rw [← at_handle, here]; rfl
    next => rfl
  case periods =>
    intro u mem
    rcases List.mem_or_eq_of_mem_set mem with old | rfl
    · exact kept.periods u old
    · exact kept.periods t (List.mem_of_getElem? here)
  case held =>
    intro place u there runs
    rw [at_set] at there
    split at there
    next at_handle =>
      obtain rfl := Option.some.inj there
      exact at_handle ▸ kept.held handle t here runs
    next => exact kept.held place u there runs
  case holds =>
    intro dial place holds
    obtain ⟨u, there, kind⟩ := kept.holds dial place holds
    rw [at_set]
    split
    next at_handle =>
      subst at_handle
      obtain rfl := Option.some.inj (here.symm.trans there)
      exact ⟨_, rfl, kind⟩
    next => exact ⟨u, there, kind⟩
  case ticks =>
    intro place
    rw [tickInstants_append, kept.ticks, at_set]
    by_cases at_handle : handle = place
    · subst at_handle
      simp [tickInstants, Entry.tick?, here, Timer.instants_advance]
    · simp [tickInstants, Entry.tick?, at_handle]
  case fits =>
    intro e mem
    rw [same]
    rcases List.mem_append.1 mem with before | new
    · exact kept.fits e before
    · obtain rfl := List.mem_singleton.1 new
      rintro place job tab ⟨rfl, rfl, rfl⟩
      refine ⟨Lease.of t, ?_, rfl, ?_⟩
      · rw [← kept.leases, List.getElem?_map, here]
        rfl
      · rw [kept.tab, tabAt_of_le past]

/-- A timer after an action. -/
def struck (a : Action) (now : Nat) (t : Timer Job) : Timer Job :=
  if a.stops = some t.job.purpose.dial then t.stop now else t

/-- An action changes of a timer only whether it runs, just as it changes the lease. -/
theorem struck_eq (a : Action) (now : Nat) (t : Timer Job) :
    (struck a now t).job = t.job ∧ (struck a now t).period = t.period ∧
      (struck a now t).instants = t.instants ∧
      Lease.of (struck a now t) = (Lease.of t).after { instant := now, action := a } := by
  unfold struck Lease.after
  by_cases stops : a.stops = some t.job.purpose.dial
  · rw [if_pos stops, if_pos (show _ = some (Lease.of t).purpose.dial from stops)]
    exact ⟨rfl, rfl, rfl, rfl⟩
  · rw [if_neg stops, if_neg (show ¬ _ = some (Lease.of t).purpose.dial from stops)]
    exact ⟨rfl, rfl, rfl, rfl⟩

/-- A timer that runs after an action ran before it and was not stopped by it. -/
theorem runs_of_struck {a : Action} {now : Nat} {t : Timer Job}
    (runs : (struck a now t).stopped = none) :
    t.stopped = none ∧ a.stops ≠ some t.job.purpose.dial := by
  unfold struck at runs
  split at runs
  · cases runs
  next other => exact ⟨runs, other⟩

variable {β : Type}

/-- To stop the held timer is to stop every timer of its kind, since no other one runs. -/
theorem Kept.timers_stop {s : Session β} (kept : Kept settings log s.timers s.dashboard.controls)
    (a : Action) :
    (Timeline.stop s (a.stops.bind s.dashboard.controls.timer)).timers =
      s.timers.map (struck a s.now) := by
  refine List.ext_getElem? fun place => ?_
  rw [Timeline.getElem?_timers_stop, List.getElem?_map]
  cases here : s.timers[place]? with
  | none => rfl
  | some t =>
    rw [Option.map_some, Option.map_some, struck]
    by_cases stops : a.stops = some t.job.purpose.dial
    · rw [if_pos stops]
      split
      · rfl
      next not_held =>
        -- what is not held was stopped before, and a timer is stopped once
        rw [Timer.stop_of_stopped]
        intro runs
        rw [stops, Option.bind_some] at not_held
        exact not_held (kept.held place t here runs)
    · rw [if_neg stops, if_neg]
      -- the handle that is stopped is one of another kind
      intro held
      obtain ⟨dial, stops', held⟩ := Option.bind_eq_some_iff.1 held
      obtain ⟨t', here', kind⟩ := kept.holds dial place held
      obtain rfl := Option.some.inj (here.symm.trans here')
      exact stops (kind ▸ stops')

/-- An action stops some timers and may start one at the end. -/
theorem Kept.timers_begin {s : Session β} (kept : Kept settings log s.timers s.dashboard.controls)
    (a : Action) :
    (s.begin a).timers = s.timers.map (struck a s.now) ++ (s.armed a).toList := by
  rw [s.timers_begin, kept.timers_stop]

/-- After an action a timer is an earlier one as the action left it, or the one that it started. -/
theorem Kept.timer_begin_cases {s : Session β}
    (kept : Kept settings log s.timers s.dashboard.controls) {a : Action} {handle : Nat}
    {t : Timer Job} (here : (s.begin a).timers[handle]? = some t) :
    (∃ before, s.timers[handle]? = some before ∧ t = struck a s.now before) ∨
      handle = s.timers.length ∧ ∃ purpose, a.arms = some purpose ∧
        t = { job := s.job purpose, start := s.now
              period := s.dashboard.controls.period purpose.dial } := by
  rw [kept.timers_begin, List.getElem?_append, List.length_map] at here
  split at here
  · rw [List.getElem?_map] at here
    obtain ⟨before, there, rfl⟩ := Option.map_eq_some_iff.1 here
    exact Or.inl ⟨before, there, rfl⟩
  next beyond =>
    have new := List.mem_of_getElem? here
    have first := (List.getElem?_eq_some_iff.1 here).1
    rw [Session.armed] at new first
    cases arms : a.arms with
    | none =>
      rw [arms] at new
      cases new
    | some purpose =>
      rw [arms, Option.map_some, Option.toList_some] at new first
      rw [List.length_singleton] at first
      exact Or.inr ⟨by omega, purpose, rfl, List.mem_singleton.1 new⟩

/-- After an action the timers are leased as the deeds say. -/
theorem Kept.leases_begin {s : Session β}
    (kept : Kept settings log s.timers s.dashboard.controls) (a : Action) :
    (s.begin a).timers.map Lease.of =
      Dashboard.leases (deeds log ++ [{ instant := s.now, action := a }]) := by
  rw [kept.timers_begin, leases_concat, ← kept.leases, List.map_append, List.map_map, List.map_map]
  congr 1
  · exact List.map_congr_left fun t _ => (struck_eq a s.now t).2.2.2
  · rw [Session.armed]
    cases a.arms with
    | none => rfl
    | some purpose =>
      show [Lease.mk (s.job purpose).purpose _ _] = _
      rw [s.purpose_job]
      rfl

/-- What a dial holds after an action is a timer that was started for that dial. -/
theorem Kept.holds_begin {s : Session β}
    (kept : Kept settings log s.timers s.dashboard.controls) (a : Action) (dial : Dial)
    (handle : Nat) (holds : (s.begin a).dashboard.controls.timer dial = some handle) :
    ∃ t, (s.begin a).timers[handle]? = some t ∧ t.job.purpose.dial = dial := by
  rw [s.controls_begin] at holds
  replace holds : (if a.stops = some dial then _ else _) = some handle := holds
  split at holds
  next stops =>
    obtain ⟨purpose, arms, rfl⟩ := Option.map_eq_some_iff.1 holds
    have kind := (Action.stops_of_arms arms).symm.trans stops
    have new : (s.begin a).timers[s.timers.length]? =
        some { job := s.job purpose, start := s.now
               period := s.dashboard.controls.period purpose.dial } := by
      rw [kept.timers_begin, Session.armed, arms, ← List.length_map (struck a s.now)]
      exact List.getElem?_concat_length
    refine ⟨_, new, ?_⟩
    rw [s.purpose_job]
    exact Option.some.inj kind
  next =>
    obtain ⟨t, here, kind⟩ := kept.holds dial handle holds
    have there := congrArg (Option.map (struck a s.now)) here
    rw [← List.getElem?_map, Option.map_some] at there
    refine ⟨struck a s.now t, ?_, ?_⟩
    · rw [kept.timers_begin, List.getElem?_append_left (List.getElem?_eq_some_iff.1 there).1, there]
    · rw [(struck_eq a s.now t).1, kind]

/-- An action does not change when the timers ticked. -/
theorem Kept.instants_begin {s : Session β}
    (kept : Kept settings log s.timers s.dashboard.controls) (a : Action) (handle : Nat) :
    ((s.begin a).timers[handle]?.map Timer.instants).getD [] =
      (s.timers[handle]?.map Timer.instants).getD [] := by
  cases here : (s.begin a).timers[handle]? with
  | some t =>
    rcases kept.timer_begin_cases here with ⟨before, there, rfl⟩ | ⟨rfl, purpose, -, rfl⟩
    · rw [there, Option.map_some, Option.map_some, (struck_eq a s.now before).2.2.1]
    · rw [List.getElem?_eq_none (Nat.le_refl _)]
      rfl
  | none =>
    have beyond := List.getElem?_eq_none_iff.1 here
    rw [kept.timers_begin, List.length_append, List.length_map] at beyond
    rw [List.getElem?_eq_none (by omega : s.timers.length ≤ handle)]

/-- An action stops and arms what its deed does. -/
theorem Kept.begin {s : Session β} (kept : Kept settings log s.timers s.dashboard.controls)
    (ticked : ∀ handle : Nat, ∀ i ∈ tickInstants handle log, i < s.now) (a : Action) :
    Kept settings (log ++ [{ instant := s.now, incident := .act a }]) (s.begin a).timers
      (s.begin a).dashboard.controls := by
  have next : deeds (log ++ [{ instant := s.now, incident := .act a }]) =
      deeds log ++ [{ instant := s.now, action := a }] := deeds_append _ _
  have controls := s.controls_begin a
  refine { tab := ?tab, task := ?task, leases := ?leases, period := ?period, periods := ?periods
           held := ?held, holds := kept.holds_begin a, ticks := ?ticks, fits := ?fits }
  case tab =>
    rw [next, shownTab_concat, ← kept.tab, controls]
    rfl
  case task =>
    rw [next, openTask_concat, ← kept.task, controls]
    rfl
  case leases =>
    rw [next, kept.leases_begin]
  case period =>
    rw [controls]
    exact kept.period
  case periods =>
    intro t mem
    obtain ⟨handle, here⟩ := List.mem_iff_getElem?.1 mem
    rcases kept.timer_begin_cases here with ⟨before, there, rfl⟩ | ⟨-, purpose, arms, rfl⟩
    · obtain ⟨job, period, -⟩ := struck_eq a s.now before
      rw [job, period]
      exact kept.periods before (List.mem_of_getElem? there)
    · rw [s.purpose_job]
      exact kept.period purpose.dial
  case held =>
    intro handle t here runs
    rw [controls]
    rcases kept.timer_begin_cases here with ⟨before, there, rfl⟩ | ⟨rfl, purpose, arms, rfl⟩
    · obtain ⟨ran, other⟩ := runs_of_struck runs
      rw [(struck_eq a s.now before).1]
      exact (if_neg other).trans (kept.held handle before there ran)
    · rw [s.purpose_job]
      refine (if_pos (Action.stops_of_arms arms)).trans ?_
      rw [arms, Option.map_some]
  case ticks =>
    intro handle
    rw [tickInstants_append, kept.ticks, kept.instants_begin]
    exact List.append_nil _
  case fits =>
    intro e mem
    rw [next]
    rcases List.mem_append.1 mem with before | new
    -- ticks are earlier than the deed, so that the tab at their instants stays the same
    · exact (kept.fits e before).concat fun handle job tab ticks =>
        ticked handle e.instant (mem_tickInstants before ticks)
    · obtain rfl := List.mem_singleton.1 new
      intro handle job tab ticks
      cases ticks

end Kept

/-! ## Sessions on schedule -/

section Timed

variable {β : Type} {settings : Settings} {log : List Entry} {s : Session β}

/-- The timers of a session are those of its log, and each of them is on schedule. -/
structure Timed (settings : Settings) (log : List Entry) (s : Session β) : Prop where
  kept : Kept settings log s.timers s.dashboard.controls
  scheduled : Timeline.Scheduled s
  past : ∀ d ∈ deeds log, d.instant ≤ s.now

/-- A session starts on time. -/
theorem timed_start (settings : Settings) (backend : β) :
    Timed settings [] (Session.start settings backend) where
  kept := by
    refine ⟨rfl, rfl, rfl, fun dial => by cases dial <;> rfl, ?_, ?_, ?_, fun _ => rfl, ?_⟩
    · exact fun t mem => nomatch mem
    · exact fun handle t here => nomatch here
    · exact fun dial handle holds => by cases dial <;> cases holds
    · exact fun e mem => nomatch mem
  scheduled _ mem := nomatch mem
  past _ mem := nomatch mem

/-- A timer has ticked at every multiple of its period while it ran. -/
theorem Timed.tickedAt (timed : Timed settings log s) {handle : Nat} {lease : Lease}
    (here : (leases (deeds log))[handle]? = some lease) :
    TickedAt lease.start (lease.purpose.dial.period settings) lease.stopped s.now
      (tickInstants handle log) := by
  rw [← timed.kept.leases, List.getElem?_map] at here
  obtain ⟨t, there, rfl⟩ := Option.map_eq_some_iff.1 here
  have mem := List.mem_of_getElem? there
  obtain ⟨positive, on_schedule⟩ := timed.scheduled t mem
  have ticked := on_schedule.tickedAt positive
  rw [timed.kept.periods t mem] at ticked
  rw [timed.kept.ticks, there]
  exact ticked

/-- All ticks are past. -/
theorem Timed.lt_now (timed : Timed settings log s) (handle instant : Nat)
    (mem : instant ∈ tickInstants handle log) : instant < s.now := by
  cases here : (leases (deeds log))[handle]? with
  | some lease => exact (((timed.tickedAt here).mem_iff instant).1 mem).2.2
  | none =>
    rw [← timed.kept.leases, List.getElem?_map, Option.map_eq_none_iff] at here
    rw [timed.kept.ticks, here] at mem
    cases mem

/-- What touches no timer changes no timetable. -/
theorem Timed.quiet (timed : Timed settings log s) (s' : Session β)
    (timers : s'.timers = s.timers) (now : s'.now = s.now)
    (controls : s'.dashboard.controls = s.dashboard.controls) {entries : List Entry}
    (quiet : ∀ e ∈ entries, e.isQuiet = true) : Timed settings (log ++ entries) s' where
  kept := by
    rw [timers, controls]
    exact timed.kept.quiet quiet
  scheduled t mem := by
    rw [timers] at mem
    rw [now]
    exact timed.scheduled t mem
  past d mem := by
    rw [deeds_append, deeds_of_isQuiet quiet, List.append_nil] at mem
    rw [now]
    exact timed.past d mem

/-- Changes that leave the controls alone keep the time. -/
theorem Timed.update (timed : Timed settings log s) (f : Dashboard → Dashboard)
    (controls : (f s.dashboard).controls = s.dashboard.controls) :
    Timed settings log (s.update f) := by
  rw [← List.append_nil log]
  exact timed.quiet (s.update f) rfl rfl controls fun e mem => nomatch mem

/-- Every action keeps the time. -/
theorem Timed.begin (timed : Timed settings log s)
    (positive : ∀ dial, 0 < Dial.period settings dial) (a : Action) :
    Timed settings (log ++ [{ instant := s.now, incident := .act a }]) (s.begin a) := by
  refine ⟨timed.kept.begin timed.lt_now a, fun t mem => ?_, fun d mem => ?_⟩
  · rw [s.timers_begin] at mem
    rw [s.now_begin]
    rcases List.mem_append.1 mem with before | new
    · have stopped := timed.scheduled.stop _ t before
      rwa [Session.now_stop] at stopped
    · obtain ⟨purpose, -, rfl⟩ := Option.map_eq_some_iff.1 (Option.mem_toList.1 new)
      refine ⟨?_, Timer.onSchedule_of_armed _ _ _⟩
      rw [timed.kept.period]
      exact positive _
  · rw [s.now_begin]
    rw [deeds_append] at mem
    rcases List.mem_append.1 mem with before | new
    · exact timed.past d before
    · obtain rfl := List.mem_singleton.1 new
      exact Nat.le_refl _

/-- Between two events the timers are those of the log, and no tick was left out. -/
structure Awake (settings : Settings) (since : Nat) (log : List Entry) (timers : List (Timer Job))
    (c : Controls) : Prop where
  kept : Kept settings log timers c
  past : ∀ d ∈ deeds log, d.instant ≤ since
  waiting : ∀ t ∈ timers, t.stopped = none → since ≤ t.due

/-- While a session waits, the tick of a running timer keeps the time. -/
theorem Awake.tick {since handle : Nat} {timers : List (Timer Job)} {c : Controls}
    {t : Timer Job} (awake : Awake settings since log timers c)
    (here : timers[handle]? = some t) (runs : t.stopped = none) :
    Awake settings since (log ++ [{ instant := t.due, incident := .tick handle t.job c.tab }])
      (timers.set handle t.advance) c := by
  have due_later := awake.waiting t (List.mem_of_getElem? here) runs
  refine ⟨awake.kept.tick here fun d mem => (awake.past d mem).trans due_later, ?_, ?_⟩
  · rw [deeds_append]
    exact List.forall_mem_append.2 ⟨awake.past, fun _ mem => nomatch mem⟩
  · intro u mem runs'
    rcases List.mem_or_eq_of_mem_set mem with old | rfl
    · exact awake.waiting u old runs'
    · refine due_later.trans (Nat.add_le_add_left (Nat.mul_le_mul_right _ ?_) _)
      exact Nat.le_succ _

/-- While a session waits, the answer of a poll keeps the time. -/
theorem Awake.arrive {since instant : Nat} {r : Reply} {timers : List (Timer Job)} {c : Controls}
    (awake : Awake settings since log timers c) :
    Awake settings since (log ++ [{ instant, incident := .arrival r }]) timers c := by
  refine ⟨awake.kept.quiet fun e mem => ?_, ?_, awake.waiting⟩
  · obtain rfl := List.mem_singleton.1 mem
    rfl
  · rw [deeds_append]
    exact List.forall_mem_append.2 ⟨awake.past, fun _ mem => nomatch mem⟩

/-- While the clock runs, the timers tick on schedule, whatever their calls lead to. -/
theorem Timed.sleep (timed : Timed settings log s) (b : Backend β) (time : Nat) :
    Timed settings (log ++ s.sleepLog b time) (s.sleep b time) := by
  have start : Awake settings s.now log s.timers s.dashboard.controls :=
    ⟨timed.kept, timed.past, fun t mem => (timed.scheduled t mem).2.waiting⟩
  have slept := Session.sleep_induction b
    (P := fun log timers state => Awake settings s.now log timers state.1.controls)
    (fun _ _ _ _ t awake here runs => by
      rw [Session.dashboard_tick]
      exact awake.tick here runs)
    (fun _ _ _ _ a awake => by
      rw [Session.controls_arrive]
      exact awake.arrive)
    log s time start
  have now : (s.sleep b time).now = s.now + time := Timeline.now_runTo _ _ _
  refine ⟨slept.kept, timed.scheduled.runTo _ (Nat.le_add_right _ _), fun d mem => ?_⟩
  rw [now]
  exact (slept.past d mem).trans (Nat.le_add_right _ _)

/-- However long the answers to calls take, the timers tick on schedule meanwhile. -/
theorem Timed.gather (timed : Timed settings log s) (b : Backend β) (calls : List Endpoint) :
    Timed settings
      (log ++ (s.gatherLog b calls ++ (s.gathered b calls).2.answerLog (s.gathered b calls).1))
      (s.gathered b calls).2 := by
  have called := timed.quiet (s.called b calls) rfl rfl rfl (Session.isQuiet_callLog s calls)
  have waited := called.sleep b (Session.callAll b calls s.backend).2.1
  rw [Session.gatherLog, ← List.append_assoc, ← List.append_assoc]
  exact waited.quiet (s.gathered b calls).2 rfl rfl rfl (Session.isQuiet_answerLog _ _)

/-- Whatever can happen to a session keeps its timers on schedule. -/
theorem Timed.step {b : Backend β} {entries : List Entry} {s' : Session β}
    (timed : Timed settings log s) (positive : ∀ dial, 0 < Dial.period settings dial)
    (step : Session.Step b s entries s') : Timed settings (log ++ entries) s' := by
  cases step with
  | begin a => exact timed.begin positive a
  | sleep time => exact timed.sleep b time
  | fetch panel calls =>
    have waited := (timed.update (·.setLoading panel true) rfl).gather b calls
    have unmarked := waited.update (·.setLoading panel false) rfl
    exact unmarked.update (List.foldl absorb · _) (controls_foldl_absorb _ _)
  | ask e => exact timed.gather b [e]
  | take f =>
    rw [List.append_nil]
    exact timed.update (fun d => { d with status := d.status.take f }) (controls_take _ f)

/-- Every course keeps the time. -/
theorem Timed.course {b : Backend β} {entries : List Entry} {s' : Session β}
    (timed : Timed settings log s) (positive : ∀ dial, 0 < Dial.period settings dial)
    (course : Session.Course b s entries s') : Timed settings (log ++ entries) s' := by
  induction course with
  | start => rwa [List.append_nil]
  | step _ last ih =>
    rw [← List.append_assoc]
    exact ih.step positive last

end Timed

end IngestConsole.Dashboard
