import IngestConsole.Proofs.Polling.History

/-!
# Interleavings of a status monitor

A status monitor whose answers arrive whenever they like.  Openings, closings, ticks, refreshes and
arrivals come in any order: a tick is one of a running timer, and an arrival is the answer, good or
bad, to a call that was made and not answered yet.  The monitor and its timers are those of
`MonitorRun`; only the clock and the backend are left out, so that any schedule and any backend are
among the interleavings.

The log keeps what happened and what the monitor did then.  What happened is the `history`; the
place of a tick or of a refresh in it names the call that the tick or the refresh made.
-/

set_option autoImplicit false

namespace IngestConsole.Polling

open Service Wire

/-- Something that happened, and what the monitor did then. -/
structure LogEntry where
  happening : Happening
  /-- The call that was made. -/
  call : Option Fetch
  /-- What a refresh that ended told its caller. -/
  told : Option Bool
  /-- Those who watch the snapshot were notified. -/
  isNotified : Bool

/-- A status monitor in the midst of an interleaving. -/
structure Watch where
  /-- The monitor and its timers. -/
  run : MonitorRun Unit
  log : List LogEntry := []

namespace Watch

/-- The monitor. -/
def monitor (w : Watch) : StatusMonitor :=
  w.run.monitor

/-- What happened, the latest last. -/
def history (w : Watch) : List Happening :=
  w.log.map (·.happening)

/-- The call that was made at a place of the history. -/
def call? (w : Watch) (origin : Nat) : Option Fetch :=
  w.log[origin]?.bind (·.call)

/-- The answer to the call that was made at a place has arrived. -/
def isAnswered (w : Watch) (origin : Nat) : Bool :=
  w.history.any fun
    | .arrive o _ => o == origin
    | _ => false

/-- A call was made at a place whose answer has not arrived. -/
def isUnderWay (w : Watch) (origin : Nat) : Bool :=
  (w.call? origin).isSome && !w.isAnswered origin

/-- A refresh was asked for at a place. -/
def isRefresh (w : Watch) (origin : Nat) : Bool :=
  match w.history[origin]? with
  | some .refresh => true
  | _ => false

/-- What may happen next: a timer ticks while it runs, and the answer to a call arrives once. -/
def allows (w : Watch) : Happening → Bool
  | .tick handle => w.run.timers[handle]?.any (·.isRunning)
  | .arrive origin _ => w.isUnderWay origin
  | _ => true

/-- The monitor and its timers after something happened.  How often a timer ticked is not kept,
since any schedule of its ticks is allowed. -/
def runAfter (w : Watch) : Happening → MonitorRun Unit
  | .openTask task => w.run.openTask task
  | .close => w.run.close
  | .arrive origin result =>
    match w.call? origin with
    | some fetch => w.run.modify fun s => (s.1.take { fetch, result }, s.2)
    | none => w.run
  | _ => w.run

/-- The call that is made when something happens. -/
def callOf (w : Watch) : Happening → Option Fetch
  | .tick handle => w.run.timers[handle]?.map (·.job)
  | .refresh => w.monitor.fetch?
  | _ => none

/-- What a refresh that ends when something happens tells its caller: at once if no task is open,
else when the answer to its call arrives. -/
def toldBy (w : Watch) : Happening → Option Bool
  | .refresh => if w.monitor.fetch?.isNone then some false else none
  | .arrive origin result =>
    if w.isRefresh origin then
      (w.call? origin).map fun fetch => w.monitor.accepts { fetch, result }
    else none
  | _ => none

/-- The entry of the log for something that happens. -/
def entryOf (w : Watch) (h : Happening) : LogEntry where
  happening := h
  call := w.callOf h
  told := w.toldBy h
  isNotified := (w.runAfter h).monitor.changes != w.monitor.changes

/-- The watch after something happened. -/
def after (w : Watch) (h : Happening) : Watch where
  run := w.runAfter h
  log := w.log ++ [w.entryOf h]

/-- The watch after something happened, if it may happen. -/
def next (w : Watch) (h : Happening) : Watch :=
  if w.allows h then w.after h else w

/-- A monitor without an open task to which nothing happened yet. -/
def start (period : Nat) : Watch where
  run := .start period ()

/-- The watch after things happened in an order; what may not happen is left out. -/
def interleave (period : Nat) (hs : List Happening) : Watch :=
  hs.foldl next (start period)

/-! ### Lengths and places -/

/-- The history is as long as the log. -/
@[simp]
theorem length_history (w : Watch) : w.history.length = w.log.length := by
  simp [history]

/-- What happens is the last of the history. -/
@[simp]
theorem history_after (w : Watch) (h : Happening) : (w.after h).history = w.history ++ [h] := by
  simp [history, after, entryOf]

/-- The calls after something happened are those before and the one that was made then. -/
theorem call?_after (w : Watch) (h : Happening) (origin : Nat) :
    (w.after h).call? origin = if origin = w.log.length then w.callOf h else w.call? origin := by
  simp only [call?, after, List.getElem?_append]
  split
  next earlier => simp [Nat.ne_of_lt earlier]
  next later =>
    split
    next now => simp [now, entryOf]
    next beyond =>
      have nothing : w.log[origin]? = none := List.getElem?_eq_none (by omega)
      have single : ¬ origin - w.log.length < 1 := by omega
      simp [nothing, single]

/-- A call was made at a place of the log. -/
theorem lt_length_of_call? {w : Watch} {origin : Nat} {fetch : Fetch}
    (h : w.call? origin = some fetch) : origin < w.log.length := by
  refine Nat.lt_of_not_le fun beyond => ?_
  simp [call?, List.getElem?_eq_none beyond] at h

/-- A call is that of a refresh exactly when the history tells so. -/
theorem isRefresh_iff (w : Watch) (origin : Nat) :
    w.isRefresh origin = true ↔ w.history[origin]? = some .refresh := by
  unfold isRefresh
  split <;> simp_all

/-- Only an answer to a call may arrive. -/
theorem called_of_allows {w : Watch} {origin : Nat} {result : Except CallError StatusSnapshot}
    (allowed : w.allows (.arrive origin result) = true) : ∃ fetch, w.call? origin = some fetch := by
  simp only [allows, isUnderWay, Bool.and_eq_true] at allowed
  exact Option.isSome_iff_exists.1 allowed.1

/-- The monitor takes an answer that arrives. -/
theorem monitor_after_arrive {w : Watch} {origin : Nat} {fetch : Fetch}
    (called : w.call? origin = some fetch) (result : Except CallError StatusSnapshot) :
    (w.after (.arrive origin result)).monitor = w.monitor.take { fetch, result } := by
  simp only [Watch.after, monitor, runAfter, called]
  rfl

/-- What neither opens nor closes changes no timer, and of the monitor only what it shows. -/
theorem runAfter_of_not_isSwitch (w : Watch) {h : Happening} (quiet : h.isSwitch = false) :
    (w.runAfter h).timers = w.run.timers ∧ (w.runAfter h).monitor.task = w.monitor.task ∧
      (w.runAfter h).monitor.timer = w.monitor.timer ∧
      (w.runAfter h).monitor.generation = w.monitor.generation := by
  cases h with
  | openTask task => simp [Happening.isSwitch] at quiet
  | close => simp [Happening.isSwitch] at quiet
  | arrive origin result =>
    simp only [runAfter]
    split
    · exact ⟨rfl, StatusMonitor.task_take .., StatusMonitor.timer_take ..,
        StatusMonitor.generation_take ..⟩
    · exact ⟨rfl, rfl, rfl, rfl⟩
  | _ => exact ⟨rfl, rfl, rfl, rfl⟩

/-- What holds at the start and is kept by everything that may happen holds in every
interleaving. -/
theorem interleave_induction {period : Nat} {P : Watch → Prop} (start : P (start period))
    (step : ∀ w h, P w → w.allows h = true → P (w.after h)) (hs : List Happening) :
    P (interleave period hs) := by
  suffices general : ∀ w, P w → P (hs.foldl next w) from general _ start
  induction hs with
  | nil => exact fun w hw => hw
  | cons h hs ih =>
    intro w hw
    refine ih _ ?_
    unfold next
    split
    next allowed => exact step w h hw allowed
    next => exact hw

end Watch

end IngestConsole.Polling
