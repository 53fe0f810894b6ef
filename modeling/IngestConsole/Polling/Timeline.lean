/-!
# Timelines

A timeline is a clock together with what is due on it: the ticks of timers, and answers that are
under way.  The clock moves only when it is told to run, and then it stops at every instant at which
something is due.  A timer ticks at the instant at which it is armed and then after every period;
neither its ticks nor the answers that they lead to change any timer.
-/

set_option autoImplicit false

namespace IngestConsole.Polling

/-- A job that is run again and again until it is stopped.  Instants are in milliseconds. -/
structure Timer (τ : Type) where
  job : τ
  /-- The instant of the first tick. -/
  start : Nat
  period : Nat
  /-- How often the timer has ticked. -/
  ticks : Nat := 0
  /-- The instant at which the timer was stopped. -/
  stopped : Option Nat := none
  deriving DecidableEq, Repr

namespace Timer

variable {τ : Type}

/-- A timer ticks again unless it was stopped; one without a period never ticks. -/
def isRunning (t : Timer τ) : Bool :=
  t.stopped.isNone && t.period != 0

/-- The instant of the next tick. -/
def due (t : Timer τ) : Nat :=
  t.start + t.ticks * t.period

/-- The timer after one more tick. -/
def advance (t : Timer τ) : Timer τ :=
  { t with ticks := t.ticks + 1 }

/-- The timer after it was stopped at an instant; stopping it again changes nothing. -/
def stop (now : Nat) (t : Timer τ) : Timer τ :=
  { t with stopped := some (t.stopped.getD now) }

/-- The time from the next tick to an instant, which bounds the number of ticks before it. -/
def timeLeft (horizon : Nat) (t : Timer τ) : Nat :=
  if t.isRunning then horizon - t.due else 0

end Timer

/-- An answer that is under way. -/
structure Arrival (δ : Type) where
  instant : Nat
  content : δ
  deriving DecidableEq, Repr

/-- A clock, what is due, and a state that the events change. -/
structure Timeline (τ δ σ : Type) where
  now : Nat := 0
  /-- Every timer that was ever armed; its place is its handle. -/
  timers : List (Timer τ) := []
  arrivals : List (Arrival δ) := []
  state : σ

/-- What happens when a timer ticks and when an answer arrives. -/
structure Handlers (τ δ σ : Type) where
  /-- Runs a job at an instant.  The job may send for an answer, which takes a number of
  milliseconds to arrive. -/
  tick : Nat → τ → σ → Option (Nat × δ) × σ
  /-- Takes an answer in at an instant. -/
  arrive : Nat → δ → σ → σ

/-- Something that is due: the answer or the tick of the timer at a place. -/
inductive Event
  | arrival (place : Nat)
  | tick (place : Nat)
  deriving DecidableEq, Repr

namespace Timeline

variable {τ δ σ : Type}

/-- Changes the state. -/
def modify (tl : Timeline τ δ σ) (f : σ → σ) : Timeline τ δ σ :=
  { tl with state := f tl.state }

/-- Arms a timer that ticks from now on. -/
def arm (tl : Timeline τ δ σ) (job : τ) (period : Nat) : Timeline τ δ σ :=
  { tl with timers := tl.timers ++ [{ job, start := tl.now, period }] }

/-- The handle of the timer that is armed next. -/
def nextHandle (tl : Timeline τ δ σ) : Nat :=
  tl.timers.length

/-- Stops a timer, if there is one. -/
def stop (tl : Timeline τ δ σ) : Option Nat → Timeline τ δ σ
  | some handle => { tl with timers := tl.timers.modify handle (Timer.stop tl.now) }
  | none => tl

/-- What is due and when: first the answers, then the ticks. -/
def agenda (tl : Timeline τ δ σ) : List (Nat × Event) :=
  tl.arrivals.mapIdx (fun place a => (a.instant, .arrival place))
    ++ tl.timers.zipIdx.filterMap fun (t, place) =>
      if t.isRunning then some (t.due, .tick place) else none

/-- The first of the earliest entries. -/
def earliest? : List (Nat × Event) → Option (Nat × Event)
  | [] => none
  | entry :: rest =>
    match earliest? rest with
    | none => some entry
    | some other => if entry.1 ≤ other.1 then some entry else some other

/-- What is due first before an instant. -/
def nextDue? (tl : Timeline τ δ σ) (horizon : Nat) : Option (Nat × Event) :=
  earliest? (tl.agenda.filter (·.1 < horizon))

/-- Lets an event happen at an instant. -/
def perform (tl : Timeline τ δ σ) (h : Handlers τ δ σ) (now : Nat) : Event → Timeline τ δ σ
  | .arrival place =>
    match tl.arrivals[place]? with
    | some a =>
      { tl with now, arrivals := tl.arrivals.eraseIdx place, state := h.arrive now a.content tl.state }
    | none => tl
  | .tick place =>
    match tl.timers[place]? with
    | some t =>
      let (sent, state) := h.tick now t.job tl.state
      { now, timers := tl.timers.set place t.advance, state
        arrivals := tl.arrivals ++ sent.toList.map fun (delay, content) =>
          { instant := now + delay, content } }
    | none => tl

/-- The sum of a list. -/
def total : List Nat → Nat
  | [] => 0
  | x :: rest => x + total rest

/-- A bound on the number of events before an instant: every tick takes a millisecond at least and
leads to one answer at most. -/
def workload (tl : Timeline τ δ σ) (horizon : Nat) : Nat :=
  2 * total (tl.timers.map (Timer.timeLeft horizon)) + tl.arrivals.length

/-- An earliest entry is an entry. -/
theorem mem_of_earliest? {entries : List (Nat × Event)} {entry : Nat × Event}
    (h : earliest? entries = some entry) : entry ∈ entries := by
  induction entries with
  | nil => simp [earliest?] at h
  | cons first rest ih =>
    rw [earliest?] at h
    split at h
    · simp_all
    · split at h <;> simp_all

/-- An answer of the agenda is under way. -/
theorem lt_length_of_arrival_mem_agenda {tl : Timeline τ δ σ} {instant place : Nat}
    (h : (instant, Event.arrival place) ∈ tl.agenda) : place < tl.arrivals.length := by
  simp only [agenda, List.mem_append, List.mem_mapIdx, List.mem_filterMap] at h
  rcases h with ⟨i, hi, h⟩ | ⟨⟨t, i⟩, _, h⟩
  · simp only [Prod.mk.injEq, Event.arrival.injEq] at h
    omega
  · split at h <;> simp at h

/-- A tick of the agenda is the next tick of a running timer. -/
theorem running_of_tick_mem_agenda {tl : Timeline τ δ σ} {instant place : Nat}
    (h : (instant, Event.tick place) ∈ tl.agenda) :
    ∃ hp : place < tl.timers.length,
      tl.timers[place].isRunning = true ∧ tl.timers[place].due = instant := by
  simp only [agenda, List.mem_append, List.mem_mapIdx, List.mem_filterMap] at h
  rcases h with ⟨i, hi, h⟩ | ⟨⟨t, i⟩, ht, h⟩
  · simp at h
  · split at h
    next running =>
      simp only [Option.some.injEq, Prod.mk.injEq, Event.tick.injEq] at h
      obtain ⟨rfl, rfl⟩ := h
      obtain ⟨hi, ht⟩ := List.getElem?_eq_some_iff.1 (List.mem_zipIdx_iff_getElem?.1 ht)
      exact ⟨hi, by simpa [ht] using running, by simp [ht]⟩
    next => simp at h

/-- A tick of a running timer uses up time. -/
theorem timeLeft_advance_lt {t : Timer τ} {horizon : Nat} (running : t.isRunning = true)
    (h : t.due < horizon) : t.advance.timeLeft horizon < t.timeLeft horizon := by
  have hr : t.advance.isRunning = true := running
  have hp : t.period ≠ 0 := by
    simp only [Timer.isRunning, Bool.and_eq_true, bne_iff_ne] at running
    exact running.2
  have hd : t.advance.due = t.due + t.period := by
    simp [Timer.due, Timer.advance, Nat.add_mul, Nat.add_assoc]
  simp only [Timer.timeLeft, running, hr, if_true, hd]
  omega

/-- A sum shrinks with one of its terms. -/
theorem total_set_lt {l : List Nat} {i x : Nat} (hi : i < l.length) (h : x < l[i]) :
    total (l.set i x) < total l := by
  induction l generalizing i with
  | nil => simp at hi
  | cons a l ih =>
    cases i with
    | zero => simp only [List.set_cons_zero, total, List.getElem_cons_zero] at h ⊢; omega
    | succ i =>
      simp only [List.set_cons_succ, total, List.getElem_cons_succ] at h ⊢
      have := ih (by simpa using hi) h
      omega

/-- What is due before an instant lessens the work before it. -/
theorem workload_perform_lt {tl : Timeline τ δ σ} (h : Handlers τ δ σ) {horizon instant : Nat}
    {event : Event} (due : tl.nextDue? horizon = some (instant, event)) :
    (tl.perform h instant event).workload horizon < tl.workload horizon := by
  have hm := List.mem_filter.1 (mem_of_earliest? due)
  have hlt : instant < horizon := by simpa using hm.2
  cases event with
  | arrival place =>
    have hp := lt_length_of_arrival_mem_agenda hm.1
    simp only [perform, List.getElem?_eq_getElem hp, workload, List.length_eraseIdx, hp, if_true]
    omega
  | tick place =>
    obtain ⟨hp, running, rfl⟩ := running_of_tick_mem_agenda hm.1
    have step := timeLeft_advance_lt running hlt
    have sum := total_set_lt (l := tl.timers.map (Timer.timeLeft horizon)) (i := place)
      (by simpa using hp) (by simpa using step)
    rcases answer : h.tick tl.timers[place].due tl.timers[place].job tl.state with ⟨sent, state⟩
    have atMostOne : sent.toList.length ≤ 1 := by cases sent <;> simp
    simp only [perform, List.getElem?_eq_getElem hp, workload, answer, List.map_set,
      List.length_append, List.length_map]
    omega

/-- Lets everything happen that is due before an instant, and sets the clock to it. -/
def runTo (tl : Timeline τ δ σ) (h : Handlers τ δ σ) (horizon : Nat) : Timeline τ δ σ :=
  match _due : tl.nextDue? horizon with
  | some (instant, event) => (tl.perform h instant event).runTo h horizon
  | none => { tl with now := horizon }
termination_by tl.workload horizon
decreasing_by exact workload_perform_lt h _due

/-- Nothing is under way, and no timer was stopped since the clock last ran: the events so far have
no more effects. -/
def isQuiet (tl : Timeline τ δ σ) : Bool :=
  tl.arrivals.isEmpty && tl.timers.all fun t => t.stopped != some tl.now

/-- Lets the clock run for some time. -/
def sleep (tl : Timeline τ δ σ) (h : Handlers τ δ σ) (time : Nat) : Timeline τ δ σ :=
  tl.runTo h (tl.now + time)

end Timeline

end IngestConsole.Polling
