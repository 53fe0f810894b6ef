import IngestConsole.Proofs.Polling.Generations
import Mathlib.Data.List.InsertIdx
import Mathlib.Data.List.Perm.Basic

/-!
# Runs on a timeline are interleavings

Whatever a caller does with a status monitor on a timeline, whatever its backend answers and however
long that takes, the monitor goes through an interleaving: the instants at which timers tick and
answers arrive only choose an order.  The relation `Follows` ties the two together: the monitors are
equal, the timers agree but for the clock, and every answer that is under way on the timeline is the
answer to a call that is under way in the interleaving.
-/

set_option autoImplicit false

namespace IngestConsole.Polling

open Service Wire

/-- What a caller does with a status monitor.  The backend may change in between. -/
inductive Action (β : Type)
  | openTask (task : Option String)
  | close
  | sleep (time : Nat)
  | refresh
  | backend (change : β → β)

namespace MonitorRun

variable {β : Type}

/-- What a refresh tells, and the run after an action. -/
def act (b : Backend β) (run : MonitorRun β) : Action β → Option Bool × MonitorRun β
  | .openTask task => (none, run.openTask task)
  | .close => (none, run.close)
  | .sleep time => (none, run.sleep b time)
  | .refresh => ((run.refresh b).1, (run.refresh b).2)
  | .backend change => (none, run.modify fun s => (s.1, change s.2))

/-- What the refreshes tell, and the run after actions in order. -/
def script (b : Backend β) (run : MonitorRun β) : List (Action β) → List Bool × MonitorRun β
  | [] => ([], run)
  | a :: rest =>
    let r := run.act b a
    let later := script b r.2 rest
    (r.1.toList ++ later.1, later.2)

/-- A tick advances its timer and sends for the answer to its call. -/
theorem perform_tick (b : Backend β) (run : MonitorRun β) (now : Nat) {place : Nat}
    {t : Timer Fetch} (here : run.timers[place]? = some t) :
    ∃ (a : Arrival Fetched) (backend : β), a.content.fetch = t.job ∧
      run.perform (handlers b) now (.tick place) =
        { now, timers := run.timers.set place t.advance, arrivals := run.arrivals ++ [a]
          state := (run.monitor, backend) } := by
  let sent := StatusMonitor.send b t.job run.state.2
  refine ⟨{ instant := now + sent.1.1, content := sent.1.2 }, sent.2, rfl, ?_⟩
  rw [Timeline.perform, here]
  rfl

/-- An arrival is taken in by the monitor. -/
theorem perform_arrival (b : Backend β) (run : MonitorRun β) (now : Nat) {place : Nat}
    {a : Arrival Fetched} (here : run.arrivals[place]? = some a) :
    run.perform (handlers b) now (.arrival place) =
      { run with
        now, arrivals := run.arrivals.eraseIdx place
        state := (run.monitor.take a.content, run.state.2) } := by
  rw [Timeline.perform, here]
  rfl

end MonitorRun

/-- A timer without its clock. -/
def Timer.core {τ : Type} (t : Timer τ) : τ × Nat × Bool :=
  (t.job, t.period, t.stopped.isSome)

namespace Watch

/-! ## Calls that are under way -/

/-- A call at a place is under way, and what was called; `waits` tells that a refresh waits for
its answer. -/
structure Awaits (w : Watch) (origin : Nat) (fetch : Fetch) (waits : Bool) : Prop where
  underWay : w.isUnderWay origin = true
  called : w.call? origin = some fetch
  refresh : w.isRefresh origin = waits

/-- A call is answered when an answer to it has arrived. -/
theorem isAnswered_iff (w : Watch) (origin : Nat) :
    w.isAnswered origin = true ↔ ∃ result, Happening.arrive origin result ∈ w.history := by
  rw [isAnswered, List.any_eq_true]
  constructor
  · rintro ⟨h, mem, same⟩
    cases h with
    | arrive o result =>
      obtain rfl : o = origin := beq_iff_eq.1 same
      exact ⟨result, mem⟩
    | _ => cases same
  · rintro ⟨result, mem⟩
    exact ⟨_, mem, beq_self_eq_true origin⟩

/-- A call is under way when it was made and no answer to it has arrived. -/
theorem isUnderWay_iff (w : Watch) (origin : Nat) :
    w.isUnderWay origin = true ↔ (w.call? origin).isSome = true ∧
      ∀ result, Happening.arrive origin result ∉ w.history := by
  rw [isUnderWay, Bool.and_eq_true, Bool.not_eq_true', Bool.eq_false_iff, Ne, isAnswered_iff,
    not_exists]

/-- A call stays under way until its answer arrives. -/
theorem Awaits.after {w : Watch} {origin : Nat} {fetch : Fetch} {waits : Bool}
    (awaits : w.Awaits origin fetch waits) {h : Happening}
    (other : ∀ result, h ≠ .arrive origin result) : (w.after h).Awaits origin fetch waits := by
  have earlier := lt_length_of_call? awaits.called
  have called : (w.after h).call? origin = some fetch := by
    rw [call?_after, if_neg (Nat.ne_of_lt earlier), awaits.called]
  refine ⟨?_, called, ?_⟩
  · rw [isUnderWay_iff, called]
    refine ⟨rfl, fun result mem => ?_⟩
    rw [history_after, List.mem_append, List.mem_singleton] at mem
    rcases mem with before | now
    · exact ((w.isUnderWay_iff origin).1 awaits.underWay).2 result before
    · exact other result now.symm
  · rw [← awaits.refresh, isRefresh, isRefresh, history_after, List.getElem?_append_left]
    rw [length_history]
    exact earlier

/-- A call that is made is under way. -/
theorem Tracks.awaits_last {w : Watch} (tracks : w.Tracks) {h : Happening} {fetch : Fetch}
    (allowed : w.allows h = true) (called : w.callOf h = some fetch) :
    (w.after h).Awaits w.log.length fetch (h matches .refresh) := by
  have now : (w.after h).call? w.log.length = some fetch := by
    rw [call?_after, if_pos rfl, called]
  refine ⟨?_, now, ?_⟩
  · rw [isUnderWay_iff, now]
    refine ⟨rfl, fun result mem => ?_⟩
    obtain ⟨place, here⟩ := List.mem_iff_getElem?.1 mem
    have before := ((tracks.after allowed).arrivals place _ result here).1
    have within := (List.getElem?_eq_some_iff.1 here).1
    rw [history_after, List.length_append, length_history, List.length_singleton] at within
    omega
  · rw [isRefresh, history_after, ← length_history, List.getElem?_concat_length]
    cases h <;> rfl

/-! ## Following a run -/

variable {β : Type}

/-- An interleaving follows a run on a timeline: the monitors are equal, the timers agree but for
the clock, and every answer under way on the timeline is that to a call under way for which no
refresh waits. -/
structure Follows (w : Watch) (run : MonitorRun β) : Prop where
  tracks : w.Tracks
  monitor : w.monitor = run.monitor
  timers : w.run.timers.map Timer.core = run.timers.map Timer.core
  answers : ∃ pending : List (Nat × Arrival Fetched), pending.map Prod.snd = run.arrivals ∧
    (pending.map Prod.fst).Nodup ∧ ∀ p ∈ pending, w.Awaits p.1 p.2.content.fetch false

/-- A timer of the run runs in the interleaving. -/
theorem Follows.timer {w : Watch} {run : MonitorRun β} (follows : w.Follows run) {place : Nat}
    {t : Timer Fetch} (here : run.timers[place]? = some t) :
    ∃ t', w.run.timers[place]? = some t' ∧ t'.core = t.core := by
  have cores := congrArg (·[place]?) follows.timers
  simp only [List.getElem?_map, here, Option.map_some] at cores
  exact Option.map_eq_some_iff.1 cores

/-- Timers with the same core run alike and serve the same job. -/
theorem isRunning_of_core {τ : Type} {s t : Timer τ} (same : s.core = t.core) :
    s.isRunning = t.isRunning ∧ s.job = t.job := by
  simp only [Timer.core, Prod.mk.injEq] at same
  obtain ⟨job, period, stopped⟩ := same
  have none : s.stopped.isNone = t.stopped.isNone := by
    rw [← Option.not_isSome, ← Option.not_isSome, stopped]
  exact ⟨by rw [Timer.isRunning, Timer.isRunning, none, period], job⟩

/-- A tick is of the clock only. -/
theorem map_core_set_advance {τ : Type} {timers : List (Timer τ)} {place : Nat} {t : Timer τ}
    (here : timers[place]? = some t) :
    (timers.set place t.advance).map Timer.core = timers.map Timer.core := by
  refine List.ext_getElem? fun i => ?_
  rw [List.getElem?_map, List.getElem?_map]
  by_cases same : place = i
  · subst same
    rw [List.getElem?_set_self (List.getElem?_eq_some_iff.1 here).1, here]
    rfl
  · rw [List.getElem?_set_ne same]

/-- A tick on the timeline is one of the interleaving, whose call takes its time. -/
theorem Follows.tick {w : Watch} {run : MonitorRun β} (follows : w.Follows run) (b : Backend β)
    (now : Nat) {place : Nat} {t : Timer Fetch} (here : run.timers[place]? = some t)
    (running : t.isRunning = true) : w.allows (.tick place) = true ∧
      (w.after (.tick place)).Follows (run.perform (MonitorRun.handlers b) now (.tick place)) := by
  obtain ⟨t', here', core⟩ := follows.timer here
  obtain ⟨running', job⟩ := isRunning_of_core core
  have allowed : w.allows (.tick place) = true := by
    simp [allows, here', running', running]
  have called : w.callOf (.tick place) = some t.job := by
    simp [callOf, here', job]
  obtain ⟨pending, contents, origins, awaited⟩ := follows.answers
  obtain ⟨a, backend, fetch, performed⟩ := MonitorRun.perform_tick b run now here
  rw [performed]
  refine ⟨allowed, follows.tracks.after allowed, follows.monitor, ?_, ?_⟩
  · exact follows.timers.trans (map_core_set_advance here).symm
  · refine ⟨pending ++ [(w.log.length, a)], ?_, ?_, ?_⟩
    · rw [List.map_append, contents]
      rfl
    · rw [List.map_append, List.nodup_append]
      refine ⟨origins, List.pairwise_singleton _ _, ?_⟩
      rintro origin mem last now rfl
      obtain ⟨p, p_mem, rfl⟩ := List.mem_map.1 mem
      have earlier := lt_length_of_call? (awaited p p_mem).called
      rw [List.mem_singleton.1 now] at earlier
      exact Nat.lt_irrefl _ earlier
    · intro p p_mem
      rcases List.mem_append.1 p_mem with before | last
      · exact (awaited p before).after fun result same => by cases same
      · obtain rfl := List.mem_singleton.1 last
        rw [fetch]
        exact follows.tracks.awaits_last allowed called

/-- An arrival on the timeline is one of the interleaving, for which no refresh waits. -/
theorem Follows.arrival {w : Watch} {run : MonitorRun β} (follows : w.Follows run) (b : Backend β)
    (now : Nat) {place : Nat} {a : Arrival Fetched} (here : run.arrivals[place]? = some a) :
    ∃ origin, w.allows (.arrive origin a.content.result) = true ∧ w.isRefresh origin = false ∧
      (w.after (.arrive origin a.content.result)).Follows
        (run.perform (MonitorRun.handlers b) now (.arrival place)) := by
  obtain ⟨pending, contents, origins, awaited⟩ := follows.answers
  have listed := here
  rw [← contents, List.getElem?_map] at listed
  obtain ⟨⟨origin, content⟩, there, same⟩ := Option.map_eq_some_iff.1 listed
  obtain rfl : a = content := same.symm
  have awaits := awaited (origin, a) (List.mem_of_getElem? there)
  have monitor : (w.after (.arrive origin a.content.result)).monitor =
      run.monitor.take a.content := by
    rw [monitor_after_arrive awaits.called, follows.monitor]
  -- the call that is answered stands once among those under way
  have perm : pending.Perm ((origin, a) :: pending.eraseIdx place) := by
    obtain ⟨lt, same⟩ := List.getElem?_eq_some_iff.1 there
    rw [← same]
    exact (List.getElem_cons_eraseIdx_perm lt).symm
  have distinct := (perm.map Prod.fst).nodup_iff.1 origins
  rw [List.map_cons, List.nodup_cons] at distinct
  have allowed : w.allows (.arrive origin a.content.result) = true := awaits.underWay
  refine ⟨origin, allowed, awaits.refresh, ?_⟩
  rw [MonitorRun.perform_arrival b run now here]
  refine ⟨follows.tracks.after allowed, monitor, ?_, pending.eraseIdx place, ?_, distinct.2, ?_⟩
  · rw [← follows.timers]
    exact congrArg _ (w.runAfter_of_not_isSwitch rfl).1
  · rw [← contents, List.eraseIdx_map]
  · intro p mem
    refine (awaited p (perm.mem_iff.2 (List.mem_cons_of_mem _ mem))).after fun result same => ?_
    obtain ⟨again, -⟩ := Happening.arrive.inj same
    exact distinct.1 (List.mem_map.2 ⟨p, mem, again.symm⟩)

/-! ## What is told on the way -/

/-- Things that may happen lead from one watch to another, and this is what refreshes were told in
the meantime. -/
structure Leads (w : Watch) (told : List Bool) (w' : Watch) : Prop where
  reached : ∃ hs : List Happening, w' = hs.foldl next w
  told : w'.log.filterMap (·.told) = w.log.filterMap (·.told) ++ told

/-- Without happenings a watch leads to itself. -/
theorem Leads.refl (w : Watch) : w.Leads [] w :=
  ⟨⟨[], rfl⟩, (List.append_nil _).symm⟩

/-- Happenings after happenings lead on, what they tell joined. -/
theorem Leads.trans {w w' w'' : Watch} {told later : List Bool} (first : w.Leads told w')
    (second : w'.Leads later w'') : w.Leads (told ++ later) w'' := by
  obtain ⟨hs, rfl⟩ := first.reached
  obtain ⟨hs', rfl⟩ := second.reached
  refine ⟨⟨hs ++ hs', List.foldl_append.symm⟩, ?_⟩
  rw [second.told, first.told, List.append_assoc]

/-- A happening that may occur leads to the watch after it. -/
theorem leads_after {w : Watch} {h : Happening} (allowed : w.allows h = true) :
    w.Leads (w.toldBy h).toList (w.after h) := by
  refine ⟨⟨[h], ?_⟩, ?_⟩
  · rw [List.foldl_cons, List.foldl_nil, next, if_pos allowed]
  · rw [Watch.after, List.filterMap_append]
    cases told : w.toldBy h <;> simp [entryOf, told]

/-- While the clock runs nothing is told to anyone, and a refresh that waits still waits. -/
structure Calm (w w' : Watch) : Prop where
  leads : w.Leads [] w'
  waits : ∀ origin fetch, w.Awaits origin fetch true → w'.Awaits origin fetch true

/-- Where nothing happens all stays calm. -/
theorem Calm.refl (w : Watch) : w.Calm w :=
  ⟨.refl w, fun _ _ => id⟩

/-- Calm stretches in sequence are calm. -/
theorem Calm.trans {w w' w'' : Watch} (first : w.Calm w') (second : w'.Calm w'') : w.Calm w'' :=
  ⟨first.leads.trans second.leads,
    fun origin fetch awaits => second.waits origin fetch (first.waits origin fetch awaits)⟩

/-- A tick tells nothing, and no refresh stops waiting. -/
theorem calm_tick {w : Watch} {place : Nat} (allowed : w.allows (.tick place) = true) :
    w.Calm (w.after (.tick place)) :=
  ⟨leads_after allowed, fun _ _ awaits => awaits.after fun _ same => by cases same⟩

/-- The arrival of an answer for which no refresh waits ends no refresh. -/
theorem calm_arrive {w : Watch} {origin : Nat} {result : Except CallError StatusSnapshot}
    (allowed : w.allows (.arrive origin result) = true) (no_refresh : w.isRefresh origin = false) :
    w.Calm (w.after (.arrive origin result)) := by
  have nothing : w.toldBy (.arrive origin result) = none := by
    simp [toldBy, no_refresh]
  have leads := leads_after allowed
  rw [nothing] at leads
  refine ⟨leads, fun other fetch awaits => awaits.after fun again same => ?_⟩
  obtain ⟨rfl, -⟩ := Happening.arrive.inj same
  exact Bool.noConfusion (no_refresh.symm.trans awaits.refresh)

/-! ## Letting the clock run -/

/-- Everything that is due before an instant is an interleaving. -/
theorem Follows.runTo {w : Watch} {run : MonitorRun β} (follows : w.Follows run) (b : Backend β)
    (horizon : Nat) :
    ∃ w', w.Calm w' ∧ w'.Follows (Timeline.runTo run (MonitorRun.handlers b) horizon) := by
  fun_induction Timeline.runTo run (MonitorRun.handlers b) horizon generalizing w with
  | case1 run instant event due ih =>
    have listed := (List.mem_filter.1 (Timeline.mem_of_earliest? due)).1
    cases event with
    | arrival place =>
      have here := List.getElem?_eq_getElem (Timeline.lt_length_of_arrival_mem_agenda listed)
      obtain ⟨origin, allowed, no_refresh, after⟩ := follows.arrival b instant here
      obtain ⟨w', calm, follows'⟩ := ih after
      exact ⟨w', (calm_arrive allowed no_refresh).trans calm, follows'⟩
    | tick place =>
      obtain ⟨within, running, -⟩ := Timeline.running_of_tick_mem_agenda listed
      obtain ⟨allowed, after⟩ := follows.tick b instant (List.getElem?_eq_getElem within) running
      obtain ⟨w', calm, follows'⟩ := ih after
      exact ⟨w', (calm_tick allowed).trans calm, follows'⟩
  | case2 run idle =>
    exact ⟨w, .refl w, follows.tracks, follows.monitor, follows.timers, follows.answers⟩

/-! ## What a caller does -/

/-- What is done to the service alone is nothing to the watch. -/
theorem Follows.modify {w : Watch} {run : MonitorRun β} (follows : w.Follows run) (backend : β) :
    w.Follows (run.modify fun s => (s.1, backend)) :=
  ⟨follows.tracks, follows.monitor, follows.timers, follows.answers⟩

/-- Timers that agree but for the clock still do after one of them is stopped. -/
theorem Follows.stop {w : Watch} {run : MonitorRun β} (follows : w.Follows run)
    (handle : Option Nat) :
    (w.run.stop handle).timers.map Timer.core = (run.stop handle).timers.map Timer.core := by
  have stopped : ∀ (now : Nat) (timers : List (Timer Fetch)) (place : Nat),
      (timers.modify place (Timer.stop now)).map Timer.core =
        (timers.map Timer.core).modify place fun c => (c.1, c.2.1, true) := by
    intro now timers place
    refine List.ext_getElem? fun i => ?_
    rw [List.getElem?_map, List.getElem?_modify, List.getElem?_modify, List.getElem?_map]
    cases timers[i]? with
    | none => rfl
    | some t => by_cases here : place = i <;> simp [here, Timer.core, Timer.stop]
  cases handle with
  | none => exact follows.timers
  | some place => rw [Timeline.stop, Timeline.stop, stopped, stopped, follows.timers]

/-- An opening or a closing is followed if the monitors and the timers agree after it, and no answer
came or went. -/
theorem Follows.switch {w : Watch} {run run' : MonitorRun β} (follows : w.Follows run)
    {h : Happening} (switch : h.isSwitch = true) (monitor : (w.after h).monitor = run'.monitor)
    (timers : (w.after h).run.timers.map Timer.core = run'.timers.map Timer.core)
    (arrivals : run'.arrivals = run.arrivals) :
    w.Leads [] (w.after h) ∧ (w.after h).Follows run' := by
  have allowed : w.allows h = true := by cases h <;> simp_all [Happening.isSwitch, allows]
  have silent : w.toldBy h = none := by cases h <;> simp_all [Happening.isSwitch, toldBy]
  have leads := leads_after allowed
  rw [silent] at leads
  obtain ⟨pending, contents, origins, awaited⟩ := follows.answers
  refine ⟨leads, follows.tracks.after allowed, monitor, timers, pending, ?_, origins, ?_⟩
  · rw [contents, arrivals]
  · intro p mem
    refine (awaited p mem).after fun result same => ?_
    rw [same] at switch
    cases switch

/-- A closing is followed, whether a task was open or not. -/
theorem Follows.close {w : Watch} {run : MonitorRun β} (follows : w.Follows run) {h : Happening}
    (switch : h.isSwitch = true) (closes : w.runAfter h = w.run.close) :
    w.Leads [] (w.after h) ∧ (w.after h).Follows run.close := by
  have stopped : run.close.arrivals = run.arrivals := by
    show (run.stop run.monitor.timer).arrivals = run.arrivals
    cases run.monitor.timer <;> rfl
  have state : (w.after h).run = w.run.close := closes
  refine follows.switch switch ?_ ?_ stopped
  · show (w.after h).run.monitor = run.close.monitor
    rw [state, MonitorRun.monitor_close, MonitorRun.monitor_close]
    exact congrArg StatusMonitor.closed follows.monitor
  · rw [state, MonitorRun.timers_close, MonitorRun.timers_close, ← follows.monitor]
    exact follows.stop _

/-- Opening a task in a run is opening it in the watch. -/
theorem Follows.openTask {w : Watch} {run : MonitorRun β} (follows : w.Follows run)
    (task : Option String) : w.Leads [] (w.after (.openTask task)) ∧
      (w.after (.openTask task)).Follows (run.openTask task) := by
  cases task with
  | none => exact follows.close rfl w.run.openTask_none
  | some task =>
    by_cases named : task = ""
    · subst named
      exact follows.close rfl w.run.openTask_empty
    have monitors : w.run.monitor = run.monitor := follows.monitor
    have lengths : w.run.timers.length = run.timers.length := by
      simpa using congrArg List.length follows.timers
    have arrivals : (run.openTask (some task)).arrivals = run.arrivals := by
      simp only [MonitorRun.openTask, StatusMonitor.openOn, String.isEmpty_iff, named, if_false,
        MonitorRun.withMonitor, Timeline.modify, Timeline.arm]
      cases run.monitor.timer <;> rfl
    refine follows.switch rfl ?_ ?_ arrivals
    · show (w.run.openTask (some task)).monitor = _
      rw [MonitorRun.monitor_openTask _ named, MonitorRun.monitor_openTask _ named, monitors,
        lengths]
    · show (w.run.openTask (some task)).timers.map Timer.core = _
      rw [MonitorRun.timers_openTask _ named, MonitorRun.timers_openTask _ named, List.map_append,
        List.map_append, monitors, follows.stop]
      rfl

/-- Asking for a refresh changes nothing but the log. -/
theorem Follows.ask {w : Watch} {run : MonitorRun β} (follows : w.Follows run) :
    (w.after .refresh).Follows run := by
  obtain ⟨pending, contents, origins, awaited⟩ := follows.answers
  refine ⟨follows.tracks.after rfl, follows.monitor, follows.timers, pending, contents, origins, ?_⟩
  exact fun p mem => (awaited p mem).after fun result same => by cases same

/-- The answer for which a refresh waits is taken in, and the refresh is told whether it was
accepted. -/
theorem Follows.answer {w : Watch} {run : MonitorRun β} (follows : w.Follows run) {origin : Nat}
    {fetch : Fetch} (awaits : w.Awaits origin fetch true)
    (result : Except CallError StatusSnapshot) :
    w.Leads [run.monitor.accepts { fetch, result }] (w.after (.arrive origin result)) ∧
      (w.after (.arrive origin result)).Follows
        (run.modify fun s => (s.1.take { fetch, result }, s.2)) := by
  have allowed : w.allows (.arrive origin result) = true := awaits.underWay
  have told : w.toldBy (.arrive origin result) =
      some (run.monitor.accepts { fetch, result }) := by
    rw [toldBy, if_pos awaits.refresh, awaits.called, follows.monitor]
    rfl
  have leads := leads_after allowed
  rw [told] at leads
  obtain ⟨pending, contents, origins, awaited⟩ := follows.answers
  refine ⟨leads, follows.tracks.after allowed, ?_, ?_, pending, contents, origins, ?_⟩
  · rw [monitor_after_arrive awaits.called, follows.monitor]
    rfl
  · rw [Watch.after, (w.runAfter_of_not_isSwitch rfl).1]
    exact follows.timers
  · intro p mem
    refine (awaited p mem).after fun again same => ?_
    obtain ⟨here, -⟩ := Happening.arrive.inj same
    have no_refresh := (awaited p mem).refresh
    rw [← here, awaits.refresh] at no_refresh
    cases no_refresh

/-- A refresh is followed: it asks, the clock runs, and the answer arrives. -/
theorem Follows.refresh {w : Watch} {run : MonitorRun β} (follows : w.Follows run)
    (b : Backend β) :
    ∃ w', w.Leads [(run.refresh b).1] w' ∧ w'.Follows (run.refresh b).2 := by
  have asked : w.callOf .refresh = run.monitor.fetch? := by
    rw [← follows.monitor]
    rfl
  have leads : w.Leads (w.toldBy .refresh).toList (w.after .refresh) := leads_after rfl
  unfold MonitorRun.refresh
  cases called : run.monitor.fetch? with
  | none =>
    rw [toldBy, follows.monitor, called] at leads
    exact ⟨_, leads, follows.ask⟩
  | some f =>
    rw [toldBy, follows.monitor, called] at leads
    -- nothing but ticks and other answers happens until the answer of this refresh arrives
    obtain ⟨w', calm, waited⟩ := (follows.ask.modify _).runTo b _
    have awaits := calm.waits _ f (follows.tracks.awaits_last rfl (asked.trans called))
    obtain ⟨ends, follows'⟩ := waited.answer awaits _
    exact ⟨_, (leads.trans calm.leads).trans ends, follows'⟩

/-- Whatever a run does, some happenings bring the watch to follow it, and they tell the same. -/
theorem Follows.act {w : Watch} {run : MonitorRun β} (follows : w.Follows run) (b : Backend β)
    (a : Action β) : ∃ w', w.Leads (run.act b a).1.toList w' ∧ w'.Follows (run.act b a).2 := by
  cases a with
  | openTask task => exact ⟨_, follows.openTask task⟩
  | close => exact ⟨_, follows.close (h := .close) rfl rfl⟩
  | sleep time =>
    obtain ⟨w', calm, follows'⟩ := follows.runTo b (run.now + time)
    exact ⟨w', calm.leads, follows'⟩
  | refresh => exact follows.refresh b
  | backend change => exact ⟨w, .refl w, follows.modify _⟩

/-- Whatever a script does, some happenings bring the watch to follow it, and they tell the same. -/
theorem Follows.script {w : Watch} {run : MonitorRun β} (follows : w.Follows run) (b : Backend β)
    (actions : List (Action β)) :
    ∃ w', w.Leads (run.script b actions).1 w' ∧ w'.Follows (run.script b actions).2 := by
  induction actions generalizing w run with
  | nil => exact ⟨w, .refl w, follows⟩
  | cons a rest ih =>
    obtain ⟨w', leads, follows'⟩ := follows.act b a
    obtain ⟨w'', leads', follows''⟩ := ih follows'
    exact ⟨w'', leads.trans leads', follows''⟩

/-- A watch follows a run from the start. -/
theorem follows_start (period : Nat) (backend : β) :
    (start period).Follows (.start period backend) :=
  ⟨tracks_start period, rfl, rfl, [], rfl, List.nodup_nil, fun _ mem => nomatch mem⟩

/-- Every script of openings, closings, sleeps and refreshes, before any backend, is an interleaving
in which the monitor comes to the same state and refreshes are told the same. -/
theorem exists_interleave_script (period : Nat) (b : Backend β) (backend : β)
    (actions : List (Action β)) :
    ∃ hs : List Happening,
      (interleave period hs).monitor =
        ((MonitorRun.start period backend).script b actions).2.monitor ∧
      (interleave period hs).log.filterMap (·.told) =
        ((MonitorRun.start period backend).script b actions).1 := by
  obtain ⟨w', leads, follows⟩ := (follows_start period backend).script b actions
  obtain ⟨hs, rfl⟩ := leads.reached
  exact ⟨hs, follows.monitor, leads.told⟩

end Watch

end IngestConsole.Polling
