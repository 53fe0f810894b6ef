import IngestConsole.Proofs.Dashboard.Calls
import IngestConsole.Proofs.Table.PageInvariant

/-!
# Answers and what is shown

Whatever a dashboard shows of the service was in the last successful answer to the call for it.
Each datum is a ledger of its own: an answer to another call, or a failure, does not touch it.
-/

set_option autoImplicit false

namespace IngestConsole

open Dashboard Polling Service Table Wire

/-- The answer to a call, if the reply is a successful one to that call. -/
def Service.Reply.answer? (r : Reply) (e : Endpoint) : Option e.Answer :=
  if same : r.endpoint = e then same ▸ r.result.toOption else none

/-- To the endpoint it comes from, a reply is an answer exactly when the call succeeded. -/
theorem Service.Reply.answer?_self (e : Endpoint) (result : e.Result) :
    Reply.answer? ⟨e, result⟩ e = result.toOption :=
  dif_pos rfl

/-- A reply from another endpoint is no answer. -/
theorem Service.Reply.answer?_of_ne {r : Reply} {e : Endpoint} (other : r.endpoint ≠ e) :
    r.answer? e = none :=
  dif_neg other

/-- A failed reply is no answer to any endpoint. -/
theorem Service.Reply.answer?_of_failed {r : Reply} (failed : r.isOk = false) (e : Endpoint) :
    r.answer? e = none := by
  by_cases same : r.endpoint = e
  · subst same
    rcases r with ⟨e, result⟩
    cases result with
    | error error => exact Reply.answer?_self e _
    | ok a => cases failed
  · exact Reply.answer?_of_ne same

namespace Dashboard

/-! ## Data -/

/-- Something that is fetched and then shown. -/
inductive Datum
  | processInfo
  | config
  | launchOptions
  | tasks
  | dump (kind : DumpKind)
  deriving DecidableEq, Repr

namespace Datum

/-- The call that fetches a datum. -/
def endpoint : Datum → Endpoint
  | processInfo => .processInfo
  | config => .config
  | launchOptions => .launchOptions
  | tasks => .tasks
  | dump kind => .dump kind

/-- What a dashboard holds of a datum. -/
abbrev Value : Datum → Type
  | processInfo => Option ProcessInfo
  | config => Option ConfigDocument
  | launchOptions => Option LaunchOptions
  | tasks => List Task
  | dump _ => Option String

/-- What is held after an answer. -/
def ofAnswer : (x : Datum) → x.endpoint.Answer → x.Value
  | processInfo, info => some info
  | config, doc => some doc
  | launchOptions, options => some options
  | tasks, list => list.tasks
  | dump _, text => some text

/-- What is held before any answer. -/
def initial : (x : Datum) → x.Value
  | processInfo => none
  | config => none
  | launchOptions => none
  | tasks => []
  | dump _ => none

end Datum

/-- What a dashboard holds of a datum. -/
def held (d : Dashboard) : (x : Datum) → x.Value
  | .processInfo => d.processInfo
  | .config => d.config
  | .launchOptions => d.launchOptions
  | .tasks => d.tasks.tasks
  | .dump kind => d.dumps kind

/-- The last successful answer to a call. -/
def lastAnswer (e : Endpoint) (rs : List Reply) : Option e.Answer :=
  rs.reverse.findSome? (·.answer? e)

/-- The last answer of two stretches is that of the later one, or else that of the earlier one. -/
theorem lastAnswer_append (e : Endpoint) (rs rs' : List Reply) :
    lastAnswer e (rs ++ rs') = (lastAnswer e rs').or (lastAnswer e rs) := by
  rw [lastAnswer, List.reverse_append, List.findSome?_append]
  rfl

/-- The last answer of a single reply is that reply, if it is one. -/
theorem lastAnswer_singleton (e : Endpoint) (r : Reply) : lastAnswer e [r] = r.answer? e := by
  show [r].findSome? _ = _
  rw [List.findSome?_singleton]

/-- An endpoint whose calls all failed has given no answer. -/
theorem lastAnswer_eq_none {e : Endpoint} {rs : List Reply}
    (failed : ∀ r ∈ rs, r.endpoint = e → r.isOk = false) : lastAnswer e rs = none := by
  refine List.findSome?_eq_none_iff.2 fun r mem => ?_
  by_cases same : r.endpoint = e
  · exact Reply.answer?_of_failed (failed r (List.mem_reverse.1 mem) same) e
  · exact Reply.answer?_of_ne same

/-- Each datum is the one of the last successful answer to the call for it, else as it was. -/
def Updated (d : Dashboard) (rs : List Reply) (d' : Dashboard) : Prop :=
  ∀ x : Datum, d'.held x = ((lastAnswer x.endpoint rs).map x.ofAnswer).getD (d.held x)

/-- An answer to another call does not touch a datum. -/
theorem held_absorb_of_ne {r : Reply} {x : Datum} (other : r.endpoint ≠ x.endpoint)
    (d : Dashboard) : (d.absorb r).held x = d.held x := by
  rcases r with ⟨e, result⟩
  cases result with
  | error error => cases e <;> rfl
  | ok a =>
    cases e with
    | dump kind =>
      cases x with
      | dump shown =>
        have kinds : shown ≠ kind := fun same => other (congrArg Endpoint.dump same.symm)
        exact if_neg kinds
      | _ => rfl
    | processInfo => cases x <;> first | rfl | exact absurd rfl other
    | config => cases x <;> first | rfl | exact absurd rfl other
    | launchOptions => cases x <;> first | rfl | exact absurd rfl other
    | tasks => cases x <;> first | rfl | exact absurd rfl other
    | _ => rfl

/-- A successful answer takes the place of what was held before; a failure does not. -/
theorem held_absorb (d : Dashboard) (x : Datum) (result : x.endpoint.Result) :
    (d.absorb ⟨x.endpoint, result⟩).held x = (result.toOption.map x.ofAnswer).getD (d.held x) := by
  cases x with
  | dump kind =>
    cases result with
    | error error => rfl
    | ok text => exact if_pos rfl
  | _ => cases result <;> rfl

/-- Absorbing a reply brings the data up to that reply. -/
theorem updated_absorb (d : Dashboard) (r : Reply) : Updated d [r] (d.absorb r) := by
  intro x
  rw [lastAnswer_singleton]
  by_cases same : r.endpoint = x.endpoint
  · rcases r with ⟨e, result⟩
    obtain rfl : e = x.endpoint := same
    rw [Reply.answer?_self, held_absorb]
  · rw [Reply.answer?_of_ne same, held_absorb_of_ne same]
    rfl

/-- A change that leaves every datum alone takes in no reply. -/
theorem updated_of_held_eq {d d' : Dashboard} (same : ∀ x, d'.held x = d.held x) :
    Updated d [] d' :=
  same

/-- Replies taken in one stretch after the other are taken in together. -/
theorem Updated.trans {d d' d'' : Dashboard} {rs rs' : List Reply} (first : Updated d rs d')
    (second : Updated d' rs' d'') : Updated d (rs ++ rs') d'' := by
  intro x
  rw [second x, first x, lastAnswer_append]
  cases lastAnswer x.endpoint rs' <;> rfl

/-- Marking a panel as loading takes in no reply. -/
theorem updated_setLoading (d : Dashboard) (panel : Panel) (isLoading : Bool) :
    Updated d [] (d.setLoading panel isLoading) :=
  updated_of_held_eq fun x => by cases x <;> rfl

/-- Absorbing replies one after the other brings the data up to all of them. -/
theorem updated_foldl_absorb (rs : List Reply) (d : Dashboard) :
    Updated d rs (rs.foldl absorb d) := by
  induction rs generalizing d with
  | nil => exact updated_of_held_eq fun x => rfl
  | cons r rs ih => exact (updated_absorb d r).trans (ih _)

/-- The text that is shown for a dump that was never fetched before. -/
theorem Updated.dumpText {d d' : Dashboard} {rs : List Reply} (updated : Updated d rs d')
    {kind : DumpKind} (unfetched : d.dumps kind = none) :
    d'.dumpText kind = (lastAnswer (.dump kind) rs).getD dumpPlaceholder := by
  have dump : d'.dumps kind = ((lastAnswer (.dump kind) rs).map some).getD (d.dumps kind) :=
    updated (.dump kind)
  rw [Dashboard.dumpText, dump, unfetched]
  cases (lastAnswer (.dump kind) rs : Option String) <;> rfl

/-! ## Answers in the log -/

/-- The answers that came in, in order. -/
def answers (log : List Entry) : List Reply :=
  log.filterMap fun e => match e.incident with
    | .answer r | .arrival r => some r
    | _ => none

/-- The answers to calls of timers, in order. -/
def arrivals (log : List Entry) : List Reply :=
  log.filterMap fun e => match e.incident with
    | .arrival r => some r
    | _ => none

/-- The answers of a log are those of its parts, in order. -/
theorem answers_append (log entries : List Entry) :
    answers (log ++ entries) = answers log ++ answers entries :=
  List.filterMap_append

namespace Session

variable {β : Type}

/-- While the clock runs, answers change the process info and the status and nothing else. -/
theorem sleep_frame {γ : Type} (f : Dashboard → γ)
    (overview : ∀ d result, f (d.absorb ⟨.processInfo, result⟩) = f d)
    (status : ∀ d m, f { d with status := m } = f d) (b : Backend β) (s : Session β) (time : Nat) :
    f (s.sleep b time).dashboard = f s.dashboard := by
  refine sleep_induction b (P := fun _ _ state => f state.1 = f s.dashboard) ?_ ?_ [] s time rfl
  · intro _ _ state handle t same _ _
    rw [dashboard_tick]
    exact same
  · intro _ _ state instant a same
    refine Eq.trans ?_ same
    cases a with
    | overview result => exact overview _ _
    | status fetched => exact status _ _

/-- An answer of a poll that arrives is absorbed like any other. -/
theorem held_arrive (b : Backend β) (now : Nat) (a : Answer) (s : Dashboard × β) (x : Datum) :
    ((handlers b).arrive now a s).1.held x = (s.1.absorb a.reply).held x := by
  cases a with
  | overview result => rfl
  | status fetched => cases x <;> rfl

/-- While a session waits, its data follow the answers of the polls. -/
theorem updated_sleep (b : Backend β) (s : Session β) (time : Nat) :
    Updated s.dashboard (answers (s.sleepLog b time)) (s.sleep b time).dashboard := by
  refine sleep_induction b (P := fun log _ state => Updated s.dashboard (answers log) state.1)
    ?_ ?_ [] s time (updated_of_held_eq fun x => rfl)
  · intro log _ state handle t updated _ _
    rw [answers_append, dashboard_tick]
    exact updated.trans (updated_of_held_eq fun x => rfl)
  · intro log _ state instant a updated
    rw [answers_append]
    refine updated.trans fun x => ?_
    rw [held_arrive]
    exact updated_absorb _ _ x

/-- While a session waits for its own calls, its data follow the answers of the polls. -/
theorem updated_gather (b : Backend β) (calls : List Endpoint) (s : Session β) :
    Updated s.dashboard (answers (s.gatherLog b calls)) (s.gathered b calls).2.dashboard := by
  have called : answers (s.callLog calls) = [] :=
    filterMap_callLog_eq_nil (fun _ _ => rfl) s calls
  rw [gatherLog, answers_append, called]
  exact updated_sleep b (s.called b calls) _

/-- The log of the answers of a call holds just these answers. -/
theorem answers_answerLog (s : Session β) (rs : List Reply) : answers (s.answerLog rs) = rs := by
  rw [answers, answerLog, List.filterMap_map]
  exact List.filterMap_some

/-- Selecting, sorting and turning pages leave the list of tasks as it is. -/
theorem tasks_apply_of_isSelection {v : View} {op : View.Op} (selection : op.isSelection = true) :
    (v.apply op).tasks = v.tasks := by
  cases op with
  | replaceTasks tasks => cases selection
  | _ => rfl

/-- What an action does before any answer comes in leaves all data as they are. -/
theorem held_begin (s : Session β) (a : Action) (x : Datum) :
    (s.begin a).dashboard.held x = s.dashboard.held x := by
  rw [dashboard_begin]
  cases a with
  | operate o => cases o <;> cases x <;> rfl
  | select op =>
    cases x with
    | tasks => exact tasks_apply_of_isSelection op.2
    | _ => rfl
  | _ => cases x <;> rfl

/-- Every step of a session keeps its data up to the answers that the step logs. -/
theorem updated_step {b : Backend β} {s s' : Session β} {entries : List Entry}
    (step : Step b s entries s') : Updated s.dashboard (answers entries) s'.dashboard := by
  cases step with
  | begin a => exact updated_of_held_eq (held_begin s a)
  | sleep time => exact updated_sleep b s time
  | fetch panel calls =>
    let marked := s.update (·.setLoading panel true)
    have waited := (updated_setLoading s.dashboard panel true).trans (updated_gather b calls marked)
    have unmarked := waited.trans (updated_setLoading _ panel false)
    have settled := unmarked.trans (updated_foldl_absorb (gathered b calls marked).1 _)
    rw [fetchLog, answers_append, answers_answerLog]
    rw [List.nil_append, List.append_nil] at settled
    exact settled
  | ask e unheeded =>
    rw [answers_append, answers_answerLog, gathered_singleton]
    have settled := (updated_gather b [e] s).trans (updated_absorb _ ⟨e, (b.call e s.backend).1⟩)
    rw [unheeded, gathered_singleton] at settled
    exact settled
  | take f => exact updated_of_held_eq fun x => by cases x <;> rfl

/-- A dashboard shows what the answers of the log say. -/
theorem updated_course {b : Backend β} {s s' : Session β} {log : List Entry}
    (course : Course b s log s') : Updated s.dashboard (answers log) s'.dashboard := by
  induction course with
  | start => exact updated_of_held_eq fun x => rfl
  | step _ last ih =>
    rw [answers_append]
    exact ih.trans (updated_step last)

end Session

end Dashboard

end IngestConsole
