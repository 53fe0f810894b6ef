import IngestConsole.Proofs.Dashboard.Calls
import IngestConsole.Proofs.Dashboard.Timekeeping
import IngestConsole.Service.InMemory
import Mathlib.Algebra.BigOperators.Group.Finset.Piecewise

/-!
# The timetable of a session

What a user did, and when, decides at which instants timers tick, and which of the ticks make a
call.  Nothing else does: not how long answers take, not whether they are failures, not how many of
them are under way, not refreshes of the status, and not ticks that made no call.
-/

set_option autoImplicit false

namespace IngestConsole.Dashboard

open Polling Service

/-! ## Calls by their timers -/

/-- The handles of the timers that were armed for a purpose. -/
def handlesFor (purpose : Purpose) (ds : List Deed) : Finset Nat :=
  (Finset.range (leases ds).length).filter fun handle =>
    (leases ds)[handle]?.map Lease.purpose = some purpose

/-- The handles for a purpose are those of its leases. -/
theorem mem_handlesFor {purpose : Purpose} {ds : List Deed} {handle : Nat} {lease : Lease}
    (here : (leases ds)[handle]? = some lease) :
    handle ∈ handlesFor purpose ds ↔ lease.purpose = purpose := by
  have within := (List.getElem?_eq_some_iff.1 here).1
  rw [handlesFor, Finset.mem_filter, Finset.mem_range, here]
  simp [within]

/-- A tick is counted once among the timers of its purpose, and not at all elsewhere. -/
theorem countP_tick {ds : List Deed} {e : Entry} (fits : e.Fits ds) (purpose : Purpose)
    (p : Nat → Bool) :
    (if (e.isTickFor purpose && p e.instant) = true then 1 else 0) =
      ∑ handle ∈ handlesFor purpose ds, (tickInstants handle [e]).countP p := by
  rcases e with ⟨instant, incident⟩
  cases incident with
  | tick handle job tab =>
    obtain ⟨lease, here, same, -⟩ := fits handle job tab rfl
    have alone (place : Nat) :
        (tickInstants place [{ instant, incident := .tick handle job tab }]).countP p =
          if handle = place then if p instant = true then 1 else 0 else 0 := by
      by_cases at_place : handle = place <;>
        simp [tickInstants, Entry.tick?, at_place, List.countP_cons]
    have counted : handle ∈ handlesFor purpose ds ↔ job.purpose = purpose :=
      same ▸ mem_handlesFor here
    rw [Finset.sum_congr rfl fun place _ => alone place, Finset.sum_ite_eq]
    by_cases fetches : job.purpose = purpose
    · rw [if_pos (counted.2 fetches)]
      simp [Entry.isTickFor, fetches]
    · rw [if_neg (mt counted.1 fetches)]
      simp [Entry.isTickFor, fetches]
  | _ => exact Finset.sum_const_zero.symm

/-- Ticks are counted timer by timer. -/
theorem countP_isTickFor {ds : List Deed} {log : List Entry} (fits : ∀ e ∈ log, e.Fits ds)
    (purpose : Purpose) (p : Nat → Bool) :
    log.countP (fun e => e.isTickFor purpose && p e.instant) =
      ∑ handle ∈ handlesFor purpose ds, (tickInstants handle log).countP p := by
  induction log with
  | nil => exact (Finset.sum_const_zero).symm
  | cons e rest ih =>
    have split (handle : Nat) : (tickInstants handle (e :: rest)).countP p =
        (tickInstants handle [e]).countP p + (tickInstants handle rest).countP p := by
      rw [← List.countP_append, ← tickInstants_append]
      rfl
    rw [List.countP_cons, ih fun e' mem => fits e' (List.mem_cons_of_mem e mem),
      Finset.sum_congr rfl fun handle _ => split handle, Finset.sum_add_distrib, Nat.add_comm,
      countP_tick (fits e (List.mem_cons_self ..))]

/-- What timers fetch is called for by their ticks, if a call is due, and by operations. -/
theorem count_callsIn {ds : List Deed} {log : List Entry} (fits : ∀ e ∈ log, e.Fits ds)
    (purpose : Purpose) :
    (callsIn log).count purpose.endpoint =
      log.countP (fun e => e.isTickFor purpose && purpose.isDue (tabAt e.instant ds))
        + (ownCalls log).count purpose.endpoint := by
  induction log with
  | nil => rfl
  | cons e rest ih =>
    have calls : callsIn (e :: rest) = callsIn [e] ++ callsIn rest := callsIn_append [e] rest
    have own : ownCalls (e :: rest) = ownCalls [e] ++ ownCalls rest := ownCalls_append [e] rest
    have first : (callsIn [e]).count purpose.endpoint =
        (if (e.isTickFor purpose && purpose.isDue (tabAt e.instant ds)) = true then 1 else 0)
          + (ownCalls [e]).count purpose.endpoint := by
      have fit := fits e (List.mem_cons_self ..)
      rcases e with ⟨instant, incident⟩
      rw [callsIn_singleton]
      cases incident with
      | tick handle job tab =>
        obtain ⟨-, -, -, shown⟩ := fit handle job tab rfl
        rw [← shown]
        by_cases fetches : job.purpose = purpose
        · subst fetches
          cases due : job.purpose.isDue tab <;>
            simp [Entry.call?, Purpose.call?, due, Entry.isTickFor, ownCalls]
        · have other : job.purpose.endpoint ≠ purpose.endpoint := mt Purpose.endpoint_inj.1 fetches
          cases due : job.purpose.isDue tab <;>
            simp [Entry.call?, Purpose.call?, due, Entry.isTickFor, ownCalls, fetches, other]
      | call endpoint => simp [Entry.call?, Entry.isTickFor, ownCalls]
      | _ => rfl
    rw [calls, own, List.count_append, List.count_append, List.countP_cons, first,
      ih fun e' mem => fits e' (List.mem_cons_of_mem e mem)]
    omega

/-- The refreshes of a task's status are counted part by part, with the task that is open in
between. -/
theorem refreshes_append (task : String) (opened : Option String) (ds rest : List Deed) :
    refreshes task opened (ds ++ rest) =
      refreshes task opened ds
        + refreshes task (ds.foldl (fun opened d => d.action.taskAfter opened) opened) rest := by
  induction ds generalizing opened with
  | nil => exact (Nat.zero_add _).symm
  | cons d ds ih => rw [List.cons_append, refreshes, refreshes, ih, Nat.add_assoc]; rfl

namespace Session

variable {β : Type}

/-- A refresh calls for the status of the open task, and nothing else that an action does by itself
calls for a status. -/
theorem count_ownCalls_actLog (b : Backend β) (s : Session β) (a : Action) (task : String) :
    (ownCalls (s.actLog b a)).count (.taskStatus task) =
      refreshes task s.dashboard.status.task [{ instant := s.now, action := a }] := by
  cases a with
  | operate o =>
    show (ownCalls (runLog b o.program s)).count _ = _
    obtain ⟨asked, fetched, made, asks, wants⟩ := ownCalls_operation b o s
    cases o with
    | refreshStatus =>
      rw [Operation.program, runLog_then, ownCalls_refreshStatus]
      cases s.dashboard.status.task with
      | none => rfl
      | some opened => simp [refreshes, List.count_singleton]
    | _ =>
      -- nothing else asks for a status, and none is among what an operation wants
      rw [made, List.count_append, List.count_eq_zero.2, List.count_eq_zero.2]
      · rfl
      · rcases wants with rfl | rfl
        · exact List.not_mem_nil
        · exact Operation.taskStatus_notMem_wants _ task
      · intro mem
        cases Operation.eq_refreshStatus_of_asks (asks _ mem)
  | sleep time =>
    show (ownCalls (sleepLog b s time)).count _ = _
    rw [ownCalls_sleepLog]
    rfl
  | _ => rfl

/-- As often as a user refreshes the status of an open task, a call is made for it. -/
theorem count_ownCalls_scriptLog (b : Backend β) {settings : Settings}
    (positive : ∀ dial, 0 < Dial.period settings dial) (task : String) (actions : List Action)
    {log : List Entry} {s : Session β} (timed : Timed settings log s) :
    (ownCalls (s.scriptLog b actions)).count (.taskStatus task) =
      refreshes task (openTask (deeds log)) (deeds (s.scriptLog b actions)) := by
  induction actions generalizing log s with
  | nil => rfl
  | cons a rest ih =>
    have acted := timed.course positive (course_act b s a)
    rw [scriptLog, ownCalls_append, List.count_append, deeds_append, refreshes_append,
      count_ownCalls_actLog, ih acted, deeds_append, deeds_actLog, openTask_concat]
    have opened : s.dashboard.status.task = openTask (deeds log) := timed.kept.task
    rw [opened]
    rfl

end Session

/-- Timers tick at the instants that follow from what a user did, and make the calls that follow
from their ticks. -/
structure Timetable (settings : Settings) (log : List Entry) (now : Nat) : Prop where
  /-- A timer ticks at every period from its arming to its stop, as far as the clock has come. -/
  ticked : ∀ (handle : Nat) lease, (leases (deeds log))[handle]? = some lease →
    TickedAt lease.start (lease.purpose.dial.period settings) lease.stopped now
      (tickInstants handle log)
  /-- A tick is one of a timer that was armed.  It makes the call of that timer, the overview timer
  only if the overview is shown at the instant of the tick. -/
  called : ∀ e ∈ log, ∀ handle job tab, e.incident = .tick handle job tab →
    ∃ lease, (leases (deeds log))[handle]? = some lease ∧
      e.call? = lease.purpose.call? (tabAt e.instant (deeds log))
  /-- The status of a task is called for by each tick of its timers, and by each refresh that is
  made while the task is open. -/
  statusCalls : ∀ task, (callsIn log).count (.taskStatus task) =
    (∑ handle ∈ handlesFor (.status task) (deeds log), (tickInstants handle log).length)
      + refreshes task none (deeds log)
  /-- Besides what operations call for, the process info is called for by each tick of an overview
  timer at whose instant the overview is shown. -/
  overviewCalls : (callsIn log).count .processInfo =
    (∑ handle ∈ handlesFor .overview (deeds log),
        (tickInstants handle log).countP (tabAt · (deeds log) = .overview))
      + (ownCalls log).count .processInfo

/-- A session on time has kept its timetable. -/
theorem Timed.timetable {β : Type} {settings : Settings} {log : List Entry} {s : Session β}
    (timed : Timed settings log s)
    (refreshed : ∀ task,
      (ownCalls log).count (.taskStatus task) = refreshes task none (deeds log)) :
    Timetable settings log s.now where
  ticked _ _ here := timed.tickedAt here
  called e mem handle job tab ticks := by
    obtain ⟨lease, here, same, shown⟩ := timed.kept.fits e mem handle job tab ticks
    refine ⟨lease, here, ?_⟩
    rw [Entry.call?, ticks, same, shown]
  statusCalls task := by
    have counted := count_callsIn timed.kept.fits (.status task)
    rw [countP_isTickFor timed.kept.fits _ fun instant =>
      Purpose.isDue (tabAt instant (deeds log)) (.status task)] at counted
    rw [← refreshed]
    simpa [Purpose.isDue, Purpose.endpoint] using counted
  overviewCalls := by
    have counted := count_callsIn timed.kept.fits .overview
    rwa [countP_isTickFor timed.kept.fits _ fun instant =>
      Purpose.isDue (tabAt instant (deeds log)) .overview] at counted

/-- Whatever a user does and whatever a backend answers and when, the timers of a session are those
that the user armed, they keep their timetable, and the backend gets the calls of the log, no more
and no less. -/
theorem timetable_script {β : Type} (b : Backend β) (settings : Settings)
    (overview : 0 < settings.overviewInterval) (status : 0 < settings.statusInterval) (backend : β)
    (actions : List Action) :
    let start := Session.start settings backend
    let log := start.scriptLog b actions
    let last := start.script b actions
    (deeds log).map Deed.action = actions ∧
      last.timers.map Lease.of = leases (deeds log) ∧
      Timetable settings log last.now ∧
      ∀ calls, b.Remembers calls → calls last.backend = calls backend ++ callsIn log := by
  intro start log last
  have positive (dial : Dial) : 0 < dial.period settings := by
    cases dial
    · exact UInt64.lt_iff_toNat_lt.1 overview
    · exact UInt64.lt_iff_toNat_lt.1 status
  have begun := timed_start settings backend
  have course := Session.course_script b start actions
  have timed : Timed settings log last := begun.course positive course
  refine ⟨Session.deeds_scriptLog b start actions, timed.kept.leases, ?_, fun calls remembers => ?_⟩
  · exact timed.timetable fun task =>
      Session.count_ownCalls_scriptLog b positive task actions begun
  · exact Session.calls_course remembers course

/-- A task that was opened twelve seconds ago was called for three times, at five second
intervals. -/
theorem timetable_opened :
    ((Session.start {} {}).script InMemory.backend
      [.openStatus "a", .sleep 12000]).backend.calls.count (.taskStatus "a") = 3 := by
  obtain ⟨-, -, table, remembered⟩ := timetable_script InMemory.backend {} (by decide) (by decide)
    {} [.openStatus "a", .sleep 12000]
  have calls := remembered (·.calls.reverse) fun _ _ => List.reverse_cons
  have done : deeds ((Session.start {} {}).scriptLog InMemory.backend
      [.openStatus "a", .sleep 12000]) =
      [{ instant := 0, action := .openStatus "a" }, { instant := 0, action := .sleep 12000 }] := by
    rw [Session.scriptLog, Session.scriptLog, deeds_append, Session.deeds_actLog, deeds_append,
      Session.deeds_actLog]
    rfl
  have now : ((Session.start {} {}).script InMemory.backend
      [.openStatus "a", .sleep 12000]).now = 12000 := Timeline.now_runTo _ _ _
  have counted := table.statusCalls "a"
  have lease := table.ticked 0 ⟨.status "a", 0, none⟩
  rw [done] at counted lease
  have ticked := (lease rfl).length
  rw [now] at ticked
  have handles : handlesFor (.status "a") [{ instant := 0, action := .openStatus "a" },
      { instant := 0, action := .sleep 12000 }] = {0} := by decide
  rw [handles, Finset.sum_singleton, ticked] at counted
  rw [← List.count_reverse, calls]
  exact counted

end IngestConsole.Dashboard
