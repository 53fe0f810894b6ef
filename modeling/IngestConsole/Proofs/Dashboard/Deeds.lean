import IngestConsole.Proofs.Dashboard.Logbook

/-!
# What a user did and what the timers should do

The log of a session holds what a user did, each deed at its instant.  From the deeds alone it
follows which timers there are, when each of them was armed and stopped, and which tab is shown and
which task is open at an instant.  What the timers did is read off the ticks in the log.
-/

set_option autoImplicit false

namespace IngestConsole.Dashboard

open Polling Service

/-! ## What timers are for -/

/-- One of the two timers that a dashboard can hold. -/
inductive Dial
  | overview
  | status
  deriving DecidableEq, Repr

/-- The time between two ticks. -/
def Dial.period (settings : Settings) : Dial → Nat
  | overview => settings.overviewInterval.toNat
  | status => settings.statusInterval.toNat

/-- What a timer fetches. -/
inductive Purpose
  | overview
  | status (task : String)
  deriving DecidableEq, Repr

/-- The timer that is held for a purpose. -/
def Purpose.dial : Purpose → Dial
  | overview => .overview
  | status _ => .status

/-- The call that is made for a purpose. -/
def Purpose.endpoint : Purpose → Endpoint
  | overview => .processInfo
  | status task => .taskStatus task

/-- Whether a tick makes the call while a tab is shown. -/
def Purpose.isDue (tab : Tab) : Purpose → Bool
  | overview => tab = .overview
  | status _ => true

/-- The call of a tick while a tab is shown. -/
def Purpose.call? (tab : Tab) (purpose : Purpose) : Option Endpoint :=
  if purpose.isDue tab then some purpose.endpoint else none

/-- Purposes that call the same endpoint are the same. -/
theorem Purpose.endpoint_inj {p q : Purpose} : p.endpoint = q.endpoint ↔ p = q := by
  cases p <;> cases q <;> simp [Purpose.endpoint]

/-- What a job fetches. -/
def Job.purpose : Job → Purpose
  | overview => .overview
  | status fetch => .status fetch.task

/-- What a timer was armed for, and when it was armed and stopped. -/
structure Lease where
  purpose : Purpose
  start : Nat
  stopped : Option Nat := none
  deriving DecidableEq, Repr

/-- What a timer says of itself. -/
def Lease.of (t : Timer Job) : Lease where
  purpose := t.job.purpose
  start := t.start
  stopped := t.stopped

/-! ## Deeds -/

namespace Action

/-- The timer that an action stops, if it is held. -/
def stops : Action → Option Dial
  | startOverview | stopOverview => some .overview
  | openStatus _ | closeStatus => some .status
  | _ => none

/-- What an action arms a timer for. -/
def arms : Action → Option Purpose
  | startOverview => some .overview
  | openStatus task => if task.isEmpty then none else some (.status task)
  | _ => none

/-- The tab after an action. -/
def tabAfter (tab : Tab) : Action → Tab
  | operate (.showTab shown) => shown
  | _ => tab

/-- The open task after an action. -/
def taskAfter (task : Option String) : Action → Option String
  | openStatus opened => if opened.isEmpty then none else some opened
  | closeStatus => none
  | _ => task

/-- What arms a timer stops the one that was held in its place. -/
theorem stops_of_arms {a : Action} {purpose : Purpose} (arms : a.arms = some purpose) :
    a.stops = some purpose.dial := by
  cases a with
  | startOverview =>
    obtain rfl := Option.some.inj arms
    rfl
  | openStatus task =>
    rw [Action.arms] at arms
    split at arms
    · cases arms
    · obtain rfl := Option.some.inj arms
      rfl
  | _ => cases arms

end Action

/-- Something that a user did. -/
structure Deed where
  instant : Nat
  action : Action

/-- The deed that an entry holds. -/
def Entry.deed? (e : Entry) : Option Deed :=
  match e.incident with
  | .act a => some { instant := e.instant, action := a }
  | _ => none

/-- What a user did, in order. -/
def deeds (log : List Entry) : List Deed :=
  log.filterMap Entry.deed?

/-- The timers that were armed, in order.  A timer is stopped by the first deed after its arming
that stops the timer in its place. -/
def leases : List Deed → List Lease
  | [] => []
  | d :: rest =>
    let lease := fun purpose : Purpose =>
      { purpose, start := d.instant
        stopped := (rest.find? (·.action.stops = some purpose.dial)).map Deed.instant : Lease }
    (d.action.arms.map lease).toList ++ leases rest

/-- The tab that is shown after deeds. -/
def shownTab (ds : List Deed) : Tab :=
  ds.foldl (fun tab d => d.action.tabAfter tab) .overview

/-- The tab that is shown at an instant. -/
def tabAt (instant : Nat) (ds : List Deed) : Tab :=
  shownTab (ds.filter (·.instant ≤ instant))

/-- The task that is open after deeds. -/
def openTask (ds : List Deed) : Option String :=
  ds.foldl (fun task d => d.action.taskAfter task) none

/-- How often the status of a task was refreshed while the task was open. -/
def refreshes (task : String) : Option String → List Deed → Nat
  | _, [] => 0
  | opened, d :: rest =>
    (match d.action with
      | .operate .refreshStatus => if opened = some task then 1 else 0
      | _ => 0) + refreshes task (d.action.taskAfter opened) rest

/-- The deeds of a log are those of its parts, in order. -/
theorem deeds_append (log entries : List Entry) :
    deeds (log ++ entries) = deeds log ++ deeds entries :=
  List.filterMap_append

/-- A timer after one more deed. -/
def Lease.after (d : Deed) (l : Lease) : Lease :=
  if d.action.stops = some l.purpose.dial then
    { l with stopped := some (l.stopped.getD d.instant) }
  else l

/-- No deed changes what a lease is for. -/
theorem Lease.purpose_after (d : Deed) (l : Lease) : (l.after d).purpose = l.purpose := by
  unfold Lease.after
  split <;> rfl

/-- A deed stops timers, and may arm one. -/
theorem leases_concat (ds : List Deed) (d : Deed) :
    leases (ds ++ [d]) = (leases ds).map (Lease.after d)
      ++ (d.action.arms.map fun purpose => { purpose, start := d.instant : Lease }).toList := by
  induction ds with
  | nil => simp [leases]
  | cons first rest ih =>
    rw [List.cons_append, leases, ih, leases, List.map_append, List.append_assoc]
    congr 1
    cases first.action.arms with
    | none => rfl
    | some purpose =>
      simp only [Option.map_some, Option.toList_some, List.map_cons, List.map_nil, Lease.after,
        List.find?_append, List.find?_singleton]
      cases rest.find? (·.action.stops = some purpose.dial) with
      | some stop => simp
      | none => by_cases stops : d.action.stops = some purpose.dial <;> simp [stops]

/-- The tab that is shown is what the last deed made of the one before. -/
theorem shownTab_concat (ds : List Deed) (d : Deed) :
    shownTab (ds ++ [d]) = d.action.tabAfter (shownTab ds) := by
  rw [shownTab, List.foldl_concat]
  rfl

/-- The task that is open is what the last deed made of the one before. -/
theorem openTask_concat (ds : List Deed) (d : Deed) :
    openTask (ds ++ [d]) = d.action.taskAfter (openTask ds) := by
  rw [openTask, List.foldl_concat]
  rfl

/-- A later deed does not change the tab at an earlier instant. -/
theorem tabAt_concat_of_lt {instant : Nat} {d : Deed} (later : instant < d.instant)
    (ds : List Deed) : tabAt instant (ds ++ [d]) = tabAt instant ds := by
  rw [tabAt, List.filter_append, List.filter_singleton, decide_eq_false (Nat.not_le_of_lt later)]
  exact congrArg shownTab (List.append_nil _)

/-- When all deeds are past, the tab of that instant is the one shown. -/
theorem tabAt_of_le {instant : Nat} {ds : List Deed} (past : ∀ d ∈ ds, d.instant ≤ instant) :
    tabAt instant ds = shownTab ds := by
  rw [tabAt, List.filter_eq_self.2 fun d mem => decide_eq_true (past d mem)]

/-! ## Ticks and calls -/

/-- The instant of a tick of the timer behind a handle. -/
def Entry.tick? (handle : Nat) (e : Entry) : Option Nat :=
  match e.incident with
  | .tick place _ _ => if place = handle then some e.instant else none
  | _ => none

/-- The instants at which the timer behind a handle ticked. -/
def tickInstants (handle : Nat) (log : List Entry) : List Nat :=
  log.filterMap (Entry.tick? handle)

/-- The call that is made, of a tick or of an operation. -/
def Entry.call? (e : Entry) : Option Endpoint :=
  match e.incident with
  | .tick _ job tab => job.purpose.call? tab
  | .call endpoint => some endpoint
  | _ => none

/-- The calls that were made, in order. -/
def callsIn (log : List Entry) : List Endpoint :=
  log.filterMap Entry.call?

/-- Whether a timer ticks that fetches something. -/
def Entry.isTickFor (purpose : Purpose) (e : Entry) : Bool :=
  match e.incident with
  | .tick _ job _ => job.purpose = purpose
  | _ => false

/-- A tick is one of a timer that was armed, and the tab is the one that is shown at its instant. -/
def Entry.Fits (ds : List Deed) (e : Entry) : Prop :=
  ∀ handle job tab, e.incident = .tick handle job tab →
    ∃ lease, (leases ds)[handle]? = some lease ∧ lease.purpose = job.purpose ∧
      tab = tabAt e.instant ds

/-- What is done later takes nothing from a tick. -/
theorem Entry.Fits.concat {ds : List Deed} {e : Entry} (fits : e.Fits ds) {d : Deed}
    (later : ∀ handle job tab, e.incident = .tick handle job tab → e.instant < d.instant) :
    e.Fits (ds ++ [d]) := by
  intro handle job tab ticks
  obtain ⟨lease, here, purpose, shown⟩ := fits handle job tab ticks
  have there := congrArg (Option.map (Lease.after d)) here
  rw [← List.getElem?_map, Option.map_some] at there
  refine ⟨lease.after d, ?_, ?_, ?_⟩
  · rw [leases_concat, List.getElem?_append_left (List.getElem?_eq_some_iff.1 there).1, there]
  · rw [Lease.purpose_after, purpose]
  · rw [tabAt_concat_of_lt (later handle job tab ticks), shown]

/-- Neither a deed nor a tick. -/
def Entry.isQuiet (e : Entry) : Bool :=
  match e.incident with
  | .act _ | .tick _ _ _ => false
  | _ => true

/-- The calls of a log are those of its parts, in order. -/
theorem callsIn_append (log entries : List Entry) :
    callsIn (log ++ entries) = callsIn log ++ callsIn entries :=
  List.filterMap_append

/-- A single entry has its call, if it is one. -/
theorem callsIn_singleton (e : Entry) : callsIn [e] = e.call?.toList := by
  rw [callsIn, List.filterMap_cons]
  cases e.call? <;> rfl

/-- The instant of a tick in a log is among the ticks of its timer. -/
theorem mem_tickInstants {handle : Nat} {job : Job} {tab : Tab} {e : Entry} {log : List Entry}
    (mem : e ∈ log) (ticks : e.incident = .tick handle job tab) :
    e.instant ∈ tickInstants handle log := by
  refine List.mem_filterMap.2 ⟨e, mem, ?_⟩
  rw [Entry.tick?, ticks]
  exact if_pos rfl

/-- The ticks of a timer in a log are those in its parts, in order. -/
theorem tickInstants_append (handle : Nat) (log entries : List Entry) :
    tickInstants handle (log ++ entries) = tickInstants handle log ++ tickInstants handle entries :=
  List.filterMap_append

/-- A quiet entry is no deed. -/
theorem Entry.deed?_of_isQuiet {e : Entry} (quiet : e.isQuiet = true) : e.deed? = none := by
  rcases e with ⟨_, _ | _⟩ <;> first | rfl | cases quiet

/-- Quiet entries hold no deeds. -/
theorem deeds_of_isQuiet {entries : List Entry} (quiet : ∀ e ∈ entries, e.isQuiet = true) :
    deeds entries = [] :=
  List.filterMap_eq_nil_iff.2 fun e mem => Entry.deed?_of_isQuiet (quiet e mem)

/-- Quiet entries hold no ticks. -/
theorem tickInstants_of_isQuiet {entries : List Entry} (quiet : ∀ e ∈ entries, e.isQuiet = true)
    (handle : Nat) : tickInstants handle entries = [] := by
  refine List.filterMap_eq_nil_iff.2 fun e mem => ?_
  have still := quiet e mem
  rcases e with ⟨_, _ | _⟩ <;> first | rfl | cases still

/-- A quiet entry fits any deeds. -/
theorem Entry.fits_of_isQuiet {e : Entry} (quiet : e.isQuiet = true) (ds : List Deed) :
    e.Fits ds := by
  intro handle job tab ticks
  rw [Entry.isQuiet, ticks] at quiet
  cases quiet

namespace Session

variable {β : Type}

/-- Sent calls are quiet. -/
theorem isQuiet_callLog (s : Session β) (calls : List Endpoint) :
    ∀ e ∈ callLog s calls, e.isQuiet = true := by
  intro e mem
  obtain ⟨call, -, rfl⟩ := List.mem_map.1 mem
  rfl

/-- Answers are quiet. -/
theorem isQuiet_answerLog (s : Session β) (replies : List Reply) :
    ∀ e ∈ answerLog s replies, e.isQuiet = true := by
  intro e mem
  obtain ⟨r, -, rfl⟩ := List.mem_map.1 mem
  rfl

end Session

end IngestConsole.Dashboard
