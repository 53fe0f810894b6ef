import IngestConsole.Proofs.Polling.Scripts

/-!
# What a status monitor shows

In every interleaving a status monitor shows what its history says: the value of the last accepted
answer since the last clearing.  Calls, what refreshes are told, and notifications follow from the
history, too.
-/

set_option autoImplicit false

namespace IngestConsole.Polling

open Service Wire

namespace Watch

/-- What the monitor shows after something happened, and whether that is a change: the value of an
accepted answer, nothing after a clearing, and what it showed before otherwise. -/
theorem Tracks.shown_after {w : Watch} (tracks : w.Tracks) {h : Happening}
    (allowed : w.allows h = true) :
    (∃ value, Accepts w.history value h ∧ (w.after h).monitor.snapshot = some value ∧
      (w.after h).monitor.changes = w.monitor.changes + 1) ∨
    (Clears w.history h ∧ (w.after h).monitor.snapshot = none ∧
      (w.after h).monitor.changes = w.monitor.clear.changes) ∨
    (¬ Clears w.history h ∧ (∀ value, ¬ Accepts w.history value h) ∧
      (w.after h).monitor.snapshot = w.monitor.snapshot ∧
      (w.after h).monitor.changes = w.monitor.changes) := by
  have only_arrivals : (∀ origin result, h ≠ .arrive origin result) →
      ∀ value, ¬ Accepts w.history value h := by
    rintro other value ⟨origin, arrival, -⟩
    exact other _ _ arrival
  cases h with
  | openTask task =>
    cases task with
    | none => exact Or.inr (Or.inl ⟨trivial, StatusMonitor.snapshot_closed _, rfl⟩)
    | some task =>
      by_cases named : task = ""
      · subst named
        exact Or.inr (Or.inl ⟨Or.inl rfl, StatusMonitor.snapshot_closed _, rfl⟩)
      · have opened : (w.after (.openTask (some task))).monitor =
            w.monitor.opened task w.run.timers.length := w.run.monitor_openTask named
        rw [opened]
        by_cases same : w.monitor.task = some task
        · have shown := StatusMonitor.shown_opened_self w.run.timers.length same
          refine Or.inr (Or.inr ⟨?_, only_arrivals (by simp), shown⟩)
          simp [Clears, named, ← tracks.task, same]
        · have shown := StatusMonitor.shown_opened_other w.run.timers.length same
          refine Or.inr (Or.inl ⟨Or.inr ?_, shown⟩)
          rwa [← tracks.task]
  | close => exact Or.inr (Or.inl ⟨trivial, StatusMonitor.snapshot_closed _, rfl⟩)
  | tick handle => exact Or.inr (Or.inr ⟨id, only_arrivals (by simp), rfl, rfl⟩)
  | refresh =>
    exact Or.inr (Or.inr ⟨id, only_arrivals (by simp), rfl, rfl⟩)
  | arrive origin result =>
    obtain ⟨fetch, called⟩ := called_of_allows allowed
    rw [monitor_after_arrive called]
    by_cases accepted : w.monitor.accepts { fetch, result } = true
    · obtain ⟨value, by_history⟩ := (tracks.accepts_iff called result).1 accepted
      have good : result = .ok value := by
        obtain ⟨_, same, -⟩ := by_history
        exact (Happening.arrive.inj same).2
      have shown := StatusMonitor.shown_take_of_accepts accepted good
      exact Or.inl ⟨value, by_history, shown⟩
    · refine Or.inr (Or.inr ⟨id, fun value by_history => ?_, ?_⟩)
      · exact accepted ((tracks.accepts_iff called result).2 ⟨value, by_history⟩)
      · rw [StatusMonitor.take_of_not_accepts (Bool.eq_false_iff.2 accepted)]
        exact ⟨rfl, rfl⟩

end Watch

/-! ## The law -/

/-- What the log says about something that happened after the history `before`. -/
structure LogEntry.Fits (before : List Happening) (e : LogEntry) : Prop where
  /-- Ticks and refreshes call for the open task, and nothing else makes a call. -/
  called : e.call.map (·.task) = if e.happening.fetches then openTaskOf before else none
  /-- A refresh ends at once, untold of success, if no task is open; else it waits. -/
  refreshed : e.happening = .refresh →
    e.told = if openTaskOf before = none then some false else none
  /-- A refresh that waits is told whether its answer was accepted. -/
  answered : ∀ origin result, e.happening = .arrive origin result →
    before[origin]? = some .refresh →
      (e.told = some true ∧ ∃ value, Accepts before value e.happening) ∨
        (e.told = some false ∧ ∀ value, ¬ Accepts before value e.happening)
  /-- Nothing else is told to anyone. -/
  told : e.told.isSome = true → e.happening = .refresh ∨
    ∃ origin result, e.happening = .arrive origin result ∧ before[origin]? = some .refresh
  /-- Those who watch are notified of accepted answers and of clearings of what was shown. -/
  notified : e.isNotified = true ↔
    (∃ value, Accepts before value e.happening) ∨
      (Clears before e.happening ∧ ∃ value, Shows before value)

/-- What a status monitor shows, calls, tells and notifies follows from the history. -/
structure Watch.SnapshotLaw (w : Watch) : Prop where
  /-- The snapshot is the value of the last accepted answer since the last clearing. -/
  shown : ∀ value, w.monitor.snapshot = some value ↔ Shows w.history value
  /-- There is no snapshot exactly if no answer was accepted since the last clearing. -/
  shown_none : w.monitor.snapshot = none ↔ ShowsNothing w.history
  /-- A snapshot is shown only while a task is open, and it answers a call for that task since
  which nothing was cleared. -/
  served : ∀ value, w.monitor.snapshot = some value →
    ∃ task origin fetch, w.monitor.task = some task ∧ w.monitor.isActive = true ∧
      w.call? origin = some fetch ∧ fetch.task = task ∧
      Happening.arrive origin (.ok value) ∈ w.history ∧
      ∀ place, origin < place → ¬ ClearedAt w.history place
  /-- Nothing is shown while no task is open. -/
  closed : w.monitor.task = none → w.monitor.snapshot = none
  /-- An answer that is a failure or stale changes nothing. -/
  ignored : ∀ origin result, w.allows (.arrive origin result) = true →
    (∀ value, ¬ Accepts w.history value (.arrive origin result)) →
      (w.after (.arrive origin result)).run = w.run
  /-- The log is right at every place. -/
  fits : ∀ place (e : LogEntry), w.log[place]? = some e → e.Fits (w.history.take place)

namespace Watch

/-- The value that a history shows was served by a call for the open task since which nothing was
cleared. -/
theorem Tracks.served {w : Watch} (tracks : w.Tracks) {value : StatusSnapshot}
    (shows : Shows w.history value) :
    ∃ origin fetch, w.call? origin = some fetch ∧ w.monitor.task = some fetch.task ∧
      Happening.arrive origin (.ok value) ∈ w.history ∧
      ∀ place, origin < place → ¬ ClearedAt w.history place := by
  obtain ⟨arrival, ⟨h, here, origin, rfl, quiet⟩, last⟩ := shows
  obtain ⟨earlier, fetch, called⟩ := tracks.arrivals arrival origin _ here
  have kept : ∀ place, origin < place → ¬ ClearedAt w.history place := by
    rintro place after ⟨x, there, clears⟩
    rcases Nat.lt_trichotomy place arrival with before | rfl | later
    · -- between the call and the arrival nothing was opened or closed at all
      have within : x ∈ (w.history.take arrival).drop (origin + 1) := by
        rw [List.mem_iff_getElem?]
        refine ⟨place - (origin + 1), ?_⟩
        rw [List.getElem?_drop, Nat.add_sub_cancel' after, List.getElem?_take_of_lt before, there]
      have switch := isSwitch_of_clears clears
      simp [quiet x within] at switch
    · obtain rfl := Option.some.inj (there.symm.trans here)
      exact clears
    · exact (last place later).1 ⟨x, there, clears⟩
  refine ⟨origin, fetch, called, ?_, List.mem_of_getElem? here, kept⟩
  rw [tracks.task, openTaskOf_eq_take fun place after => kept place after]
  exact (tracks.calls origin fetch called).2

/-- The law of what is shown is kept by everything that may happen. -/
theorem Tracks.shows_after {w : Watch} (tracks : w.Tracks) {h : Happening}
    (allowed : w.allows h = true)
    (shown : ∀ value, w.monitor.snapshot = some value ↔ Shows w.history value)
    (value : StatusSnapshot) :
    (w.after h).monitor.snapshot = some value ↔ Shows (w.after h).history value := by
  rw [history_after, shows_append_iff]
  rcases tracks.shown_after allowed with
    ⟨accepted, accepts, snapshot, -⟩ | ⟨clears, snapshot, -⟩ | ⟨kept, quiet, snapshot, -⟩
  · rw [snapshot]
    constructor
    · rintro ⟨⟩
      exact Or.inl accepts
    · rintro (again | ⟨-, quiet, -⟩)
      · rw [accepts.value_unique again]
      · exact absurd accepts (quiet accepted)
  · rw [snapshot]
    constructor
    · rintro ⟨⟩
    · rintro (accepts | ⟨kept, -⟩)
      · exact absurd clears accepts.not_clears
      · exact absurd clears kept
  · rw [snapshot, shown value]
    exact ⟨fun shows => Or.inr ⟨kept, quiet, shows⟩,
      fun either => either.elim (fun accepts => absurd accepts (quiet value)) (·.2.2)⟩

/-- After a happening nothing is shown exactly when the history says so, if it was so before. -/
theorem Tracks.showsNothing_after {w : Watch} (tracks : w.Tracks) {h : Happening}
    (allowed : w.allows h = true)
    (shown_none : w.monitor.snapshot = none ↔ ShowsNothing w.history) :
    (w.after h).monitor.snapshot = none ↔ ShowsNothing (w.after h).history := by
  rw [history_after, showsNothing_append_iff]
  rcases tracks.shown_after allowed with
    ⟨accepted, accepts, snapshot, -⟩ | ⟨clears, snapshot, -⟩ | ⟨kept, quiet, snapshot, -⟩
  · rw [snapshot]
    constructor
    · rintro ⟨⟩
    · rintro (clears | ⟨quiet, -⟩)
      · exact absurd clears accepts.not_clears
      · exact absurd accepts (quiet accepted)
  · rw [snapshot]
    exact ⟨fun _ => Or.inl clears, fun _ => rfl⟩
  · rw [snapshot, shown_none]
    exact ⟨fun nothing => Or.inr ⟨quiet, nothing⟩,
      fun either => either.elim (fun clears => absurd clears kept) (·.2)⟩

/-- The entry for something that may happen is right. -/
theorem Tracks.entryOf_fits {w : Watch} (tracks : w.Tracks) {h : Happening}
    (allowed : w.allows h = true)
    (shown : ∀ value, w.monitor.snapshot = some value ↔ Shows w.history value) :
    (w.entryOf h).Fits w.history := by
  have fetch_task : w.monitor.fetch?.map (·.task) = openTaskOf w.history := by
    rw [← tracks.task, StatusMonitor.fetch?, Option.map_map]
    exact Option.map_id'
  constructor
  case called =>
    cases h with
    | tick handle => simp [entryOf, tracks.callOf_tick allowed, fetch_task, Happening.fetches]
    | refresh => simp [entryOf, callOf, fetch_task, Happening.fetches]
    | _ => simp [entryOf, callOf, Happening.fetches]
  case refreshed =>
    rintro ⟨⟩
    simp [entryOf, toldBy, ← fetch_task]
  case answered =>
    rintro origin result ⟨⟩ refresh
    obtain ⟨fetch, called⟩ := called_of_allows allowed
    have told : (w.entryOf (.arrive origin result)).told =
        some (w.monitor.accepts { fetch, result }) := by
      simp [entryOf, toldBy, called, (w.isRefresh_iff origin).2 refresh]
    rw [told]
    by_cases accepted : w.monitor.accepts { fetch, result } = true
    · exact Or.inl ⟨by rw [accepted], (tracks.accepts_iff called result).1 accepted⟩
    · refine Or.inr ⟨by rw [Bool.eq_false_iff.2 accepted], fun value accepts => ?_⟩
      exact accepted ((tracks.accepts_iff called result).2 ⟨value, accepts⟩)
  case told =>
    intro something
    cases h with
    | refresh => exact Or.inl rfl
    | arrive origin result =>
      refine Or.inr ⟨origin, result, rfl, ?_⟩
      by_cases refresh : w.isRefresh origin = true
      · exact (w.isRefresh_iff origin).1 refresh
      · simp [entryOf, toldBy, refresh] at something
    | _ => simp [entryOf, toldBy] at something
  case notified =>
    have changes : (w.entryOf h).isNotified = true ↔
        (w.after h).monitor.changes ≠ w.monitor.changes := by
      simp [entryOf, Watch.after, monitor]
    have some_shown : w.monitor.snapshot.isSome = true ↔ ∃ value, Shows w.history value := by
      simp only [Option.isSome_iff_exists, shown]
    rw [changes]
    rcases tracks.shown_after allowed with
      ⟨accepted, accepts, -, changed⟩ | ⟨clears, -, changed⟩ | ⟨kept, quiet, -, changed⟩
    · rw [changed]
      exact ⟨fun _ => Or.inl ⟨accepted, accepts⟩, fun _ => by omega⟩
    · rw [changed, StatusMonitor.changes_clear, ← some_shown]
      constructor
      · intro differs
        refine Or.inr ⟨clears, ?_⟩
        by_cases something : w.monitor.snapshot.isSome = true
        · exact something
        · simp [something] at differs
      · rintro (⟨value, accepts⟩ | ⟨-, something⟩)
        · exact absurd clears accepts.not_clears
        · simp [something]
    · rw [changed]
      constructor
      · intro differs
        exact absurd rfl differs
      · rintro (⟨value, accepts⟩ | ⟨clears, -⟩)
        · exact absurd accepts (quiet value)
        · exact absurd clears kept

/-- The entries of a log stay right as it grows. -/
theorem fits_after {w : Watch} {h : Happening} (last : (w.entryOf h).Fits w.history)
    (fits : ∀ place (e : LogEntry), w.log[place]? = some e → e.Fits (w.history.take place)) :
    ∀ place (e : LogEntry), (w.after h).log[place]? = some e →
      e.Fits ((w.after h).history.take place) := by
  intro place e here
  rw [history_after]
  simp only [after, List.getElem?_append] at here
  split at here
  next earlier =>
    rw [List.take_append_of_le_length (by rw [length_history]; omega)]
    exact fits place e here
  next late =>
    rw [List.getElem?_singleton] at here
    split at here
    next first =>
      obtain rfl := Option.some.inj here
      have now : place = w.history.length := by rw [length_history]; omega
      rwa [now, List.take_left']
      rfl
    next => simp at here

/-- An answer that the history does not accept leaves the monitor and its timers as they are. -/
theorem Tracks.runAfter_ignored {w : Watch} (tracks : w.Tracks) {origin : Nat}
    {result : Except CallError StatusSnapshot}
    (ignored : ∀ value, ¬ Accepts w.history value (.arrive origin result)) :
    w.runAfter (.arrive origin result) = w.run := by
  simp only [runAfter]
  split
  next fetch called =>
    have refused : w.monitor.accepts { fetch, result } = false := by
      rw [Bool.eq_false_iff]
      intro accepted
      obtain ⟨value, accepts⟩ := (tracks.accepts_iff called result).1 accepted
      exact ignored value accepts
    have same : w.run.state.1.take { fetch, result } = w.run.state.1 :=
      StatusMonitor.take_of_not_accepts refused
    simp [Timeline.modify, same]
  next => rfl

/-- What a step has to keep for the law to hold after it. -/
structure Lawful (w : Watch) : Prop where
  tracks : w.Tracks
  shown : ∀ value, w.monitor.snapshot = some value ↔ Shows w.history value
  shown_none : w.monitor.snapshot = none ↔ ShowsNothing w.history
  fits : ∀ place (e : LogEntry), w.log[place]? = some e → e.Fits (w.history.take place)

/-- A watch starts lawful. -/
theorem lawful_start (period : Nat) : (start period).Lawful where
  tracks := tracks_start period
  shown value := by
    constructor
    · intro shown
      cases shown
    · rintro ⟨place, accepted, -⟩
      simpa [start, history] using accepted.lt_length
  shown_none := by
    refine ⟨fun _ place value accepted => ?_, fun _ => rfl⟩
    simpa [start, history] using accepted.lt_length
  fits := by simp [start]

/-- Whatever may happen, a lawful watch stays lawful. -/
theorem Lawful.after {w : Watch} (lawful : w.Lawful) {h : Happening}
    (allowed : w.allows h = true) : (w.after h).Lawful where
  tracks := lawful.tracks.after allowed
  shown := lawful.tracks.shows_after allowed lawful.shown
  shown_none := lawful.tracks.showsNothing_after allowed lawful.shown_none
  fits := fits_after (lawful.tracks.entryOf_fits allowed lawful.shown) lawful.fits

/-- Every interleaving is lawful. -/
theorem lawful_interleave (period : Nat) (hs : List Happening) : (interleave period hs).Lawful :=
  interleave_induction (lawful_start period) (fun _ _ lawful allowed => lawful.after allowed) hs

/-- What a lawful watch shows obeys the law of the snapshot. -/
theorem Lawful.snapshotLaw {w : Watch} (lawful : w.Lawful) : w.SnapshotLaw := by
  obtain ⟨tracks, shown, shown_none, fits⟩ := lawful
  have served : ∀ value, w.monitor.snapshot = some value →
      ∃ task origin fetch, w.monitor.task = some task ∧ w.monitor.isActive = true ∧
        w.call? origin = some fetch ∧ fetch.task = task ∧
        Happening.arrive origin (.ok value) ∈ w.history ∧
        ∀ place, origin < place → ¬ ClearedAt w.history place := by
    intro value is_shown
    obtain ⟨origin, fetch, called, task, arrived, kept⟩ :=
      tracks.served ((shown value).1 is_shown)
    refine ⟨fetch.task, origin, fetch, task, ?_, called, rfl, arrived, kept⟩
    rw [StatusMonitor.isActive, tracks.held, task]
    rfl
  refine ⟨shown, shown_none, served, ?_, ?_, fits⟩
  · intro no_task
    by_contra something
    obtain ⟨value, is_shown⟩ := Option.ne_none_iff_exists'.1 something
    obtain ⟨task, origin, fetch, is_open, -⟩ := served value is_shown
    rw [no_task] at is_open
    cases is_open
  · intro origin result _ ignored
    exact tracks.runAfter_ignored ignored

/-- In every interleaving of openings, closings, ticks, refreshes and arrivals a status monitor
shows the value of the last accepted answer since the last clearing; and every run of a monitor on a
timeline, before any backend, is such an interleaving. -/
theorem snapshotLaw_interleave (period : Nat) :
    (∀ hs : List Happening, (interleave period hs).SnapshotLaw) ∧
    ∀ (β : Type) (b : Backend β) (backend : β) (actions : List (Action β)),
      ∃ hs : List Happening,
        (interleave period hs).monitor =
          ((MonitorRun.start period backend).script b actions).2.monitor ∧
        (interleave period hs).log.filterMap (·.told) =
          ((MonitorRun.start period backend).script b actions).1 := by
  refine ⟨fun hs => (lawful_interleave period hs).snapshotLaw, ?_⟩
  intro β b backend actions
  exact exists_interleave_script period b backend actions

end Watch

end IngestConsole.Polling
