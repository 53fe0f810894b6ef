import IngestConsole.Proofs.Dashboard.DataLaw

/-!
# Dumps are fetched when they are first looked at

A look at a dump makes a call only as long as no call for it succeeded, and a refresh always makes
one.  The text that is shown is the last one that came in.  Kinds of dumps have nothing to do with
one another.
-/

set_option autoImplicit false

namespace IngestConsole.Dashboard

open Polling Service Wire

/-! ## What a user does about a dump -/

/-- What a user does with a console: an action, or a look at the log of the service or at the
configuration of a task, which the dashboard has no place for. -/
inductive Turn
  | act (a : Action)
  | readLog (start : UInt64) (errorsOnly : Bool)
  | readTaskConfig (task : String)

/-- The action of a turn. -/
def Turn.action? : Turn → Option Action
  | act a => some a
  | _ => none

/-- Whether an action fetches a dump again. -/
def Action.refreshesDump (kind : DumpKind) : Action → Bool
  | operate (.refreshDump refreshed) => refreshed = kind
  | _ => false

/-- Whether an action looks at a dump.  The debug tab shows the heap. -/
def Action.looksAtDump (kind : DumpKind) : Action → Bool
  | operate (.dumpText shown) => shown = kind
  | operate (.showTab .debug) => kind = .heap
  | _ => false

/-- Whether a turn is about a dump. -/
def Turn.isAboutDump (kind : DumpKind) (t : Turn) : Bool :=
  t.action?.any fun a => a.refreshesDump kind || a.looksAtDump kind

/-- Refreshing a dump is about that dump alone. -/
@[simp] theorem Turn.isAboutDump_refreshDump (refreshed kind : DumpKind) :
    (act (.operate (.refreshDump refreshed))).isAboutDump kind = decide (refreshed = kind) :=
  Bool.or_false _

/-- Showing a dump is about that dump alone. -/
@[simp] theorem Turn.isAboutDump_dumpText (shown kind : DumpKind) :
    (act (.operate (.dumpText shown))).isAboutDump kind = decide (shown = kind) :=
  Bool.false_or _

/-- Opening the debug tab is about the heap dump alone. -/
@[simp] theorem Turn.isAboutDump_showTab_debug (kind : DumpKind) :
    (act (.operate (.showTab .debug))).isAboutDump kind = decide (kind = .heap) :=
  Bool.false_or _

/-- A turn is about a dump when it refreshes it, shows it, or opens the debug tab at the heap dump.
-/
theorem Turn.isAboutDump_cases {t : Turn} {kind : DumpKind} (about : t.isAboutDump kind = true) :
    t = .act (.operate (.refreshDump kind)) ∨ t = .act (.operate (.dumpText kind)) ∨
      t = .act (.operate (.showTab .debug)) ∧ kind = .heap := by
  cases t with
  | act a =>
    cases a with
    | operate o =>
      cases o with
      | refreshDump refreshed =>
        obtain rfl : refreshed = kind := by simpa using about
        exact .inl rfl
      | dumpText shown =>
        obtain rfl : shown = kind := by simpa using about
        exact .inr (.inl rfl)
      | showTab tab =>
        cases tab with
        | debug => exact .inr (.inr ⟨rfl, by simpa using about⟩)
        | _ => cases about
      | _ => cases about
    | _ => cases about
  | _ => cases about

/-- Whether an entry is a look at a dump. -/
def Entry.looksAtDump (kind : DumpKind) (e : Entry) : Bool :=
  match e.incident with
  | .act a => a.looksAtDump kind
  | _ => false

/-- How often a dump was fetched again. -/
def dumpRefreshes (kind : DumpKind) (log : List Entry) : Nat :=
  (deeds log).countP (·.action.refreshesDump kind)

/-- How often a dump was looked at when no call for it had succeeded, in a log that goes on from an
earlier one. -/
def unservedLooks (kind : DumpKind) (earlier : List Entry) : List Entry → Nat
  | [] => 0
  | e :: rest =>
    (if e.looksAtDump kind ∧ lastAnswer (.dump kind) (answers earlier) = none then 1 else 0)
      + unservedLooks kind (earlier ++ [e]) rest

/-- The refreshes of a dump in a log are counted part by part. -/
theorem dumpRefreshes_append (kind : DumpKind) (log entries : List Entry) :
    dumpRefreshes kind (log ++ entries) = dumpRefreshes kind log + dumpRefreshes kind entries := by
  rw [dumpRefreshes, deeds_append, List.countP_append]
  rfl

/-- Looks at a dump that is not yet held are counted part by part, the later ones after the earlier.
-/
theorem unservedLooks_append (kind : DumpKind) (earlier log entries : List Entry) :
    unservedLooks kind earlier (log ++ entries) =
      unservedLooks kind earlier log + unservedLooks kind (earlier ++ log) entries := by
  induction log generalizing earlier with
  | nil => rw [List.append_nil, List.nil_append, unservedLooks, Nat.zero_add]
  | cons e rest ih =>
    rw [List.cons_append, unservedLooks, unservedLooks, ih, List.append_assoc, Nat.add_assoc]
    rfl

/-- Where nothing is done nobody looks at a dump. -/
theorem unservedLooks_of_deeds_nil (kind : DumpKind) (earlier : List Entry) {log : List Entry}
    (none_done : deeds log = []) : unservedLooks kind earlier log = 0 := by
  induction log generalizing earlier with
  | nil => rfl
  | cons e rest ih =>
    obtain ⟨first, later⟩ := List.append_eq_nil_iff.1 ((deeds_append [e] rest).symm.trans none_done)
    rw [unservedLooks, ih (earlier ++ [e]) later, if_neg]
    rintro ⟨looks, -⟩
    rcases e with ⟨instant, incident⟩
    cases incident with
    | act a => cases first
    | _ => cases looks

/-- Timers do not fetch dumps. -/
theorem count_callsIn_dump (kind : DumpKind) (log : List Entry) :
    (callsIn log).count (.dump kind) = (ownCalls log).count (.dump kind) := by
  induction log with
  | nil => rfl
  | cons e rest ih =>
    have calls : callsIn (e :: rest) = callsIn [e] ++ callsIn rest := callsIn_append [e] rest
    have own : ownCalls (e :: rest) = ownCalls [e] ++ ownCalls rest := ownCalls_append [e] rest
    have first : (callsIn [e]).count (.dump kind) = (ownCalls [e]).count (.dump kind) := by
      rcases e with ⟨instant, incident⟩
      rw [callsIn_singleton]
      cases incident with
      | tick handle job tab =>
        have polled : job.purpose.endpoint ≠ .dump kind := by cases job <;> exact nofun
        cases due : job.purpose.isDue tab <;>
          simp [Entry.call?, Purpose.call?, due, ownCalls, polled]
      | call endpoint => rfl
      | _ => rfl
    rw [calls, own, List.count_append, List.count_append, first, ih]

/-- What fetches a dump is a refresh or a look. -/
theorem Operation.dump_mem_wants {o : Operation} {kind : DumpKind} (wanted : .dump kind ∈ o.wants) :
    (Turn.act (.operate o)).isAboutDump kind = true := by
  cases o with
  | showTab tab => cases tab <;> simp_all [wants, Tab.wants]
  | _ => simp_all [wants]

/-- A dump is the one of the last successful answer, else the one from before. -/
theorem Updated.dumps {d d' : Dashboard} {rs : List Reply} (updated : Updated d rs d')
    (kind : DumpKind) : d'.dumps kind = (lastAnswer (.dump kind) rs).or (d.dumps kind) := by
  refine (updated (.dump kind)).trans ?_
  show ((lastAnswer (.dump kind) rs).map some).getD (d.dumps kind) = _
  cases (lastAnswer (.dump kind) rs : Option String) <;> rfl

namespace Session

variable {β : Type}

/-! ## Turns -/

/-- The session after a turn. -/
def turn (b : Backend β) (session : Session β) : Turn → Session β
  | .act a => (session.act b a).2
  | .readLog start errorsOnly => (run b (Program.ask (.log start errorsOnly)) session).2
  | .readTaskConfig task => (run b (Program.ask (.taskConfig task)) session).2

/-- What happens during a turn. -/
def turnLog (b : Backend β) (session : Session β) : Turn → List Entry
  | .act a => session.actLog b a
  | .readLog start errorsOnly => runLog b (Program.ask (.log start errorsOnly)) session
  | .readTaskConfig task => runLog b (Program.ask (.taskConfig task)) session

/-- The session after turns in order. -/
def visit (b : Backend β) (session : Session β) (turns : List Turn) : Session β :=
  turns.foldl (turn b) session

/-- What happens during one turn after another. -/
def visitLog (b : Backend β) (session : Session β) : List Turn → List Entry
  | [] => []
  | t :: rest => session.turnLog b t ++ visitLog b (session.turn b t) rest

/-- A turn is a course of the session. -/
theorem course_turn (b : Backend β) (s : Session β) (t : Turn) :
    Course b s (s.turnLog b t) (s.turn b t) := by
  cases t with
  | act a => exact course_act b s a
  | readLog start errorsOnly =>
    exact charted_call (fun d r => by cases r <;> rfl) (fun r => charted_done r) s
  | readTaskConfig task =>
    exact charted_call (fun d r => by cases r <;> rfl) (fun r => charted_done r) s

/-- A visit is a course of the session. -/
theorem course_visit (b : Backend β) (s : Session β) (turns : List Turn) :
    Course b s (s.visitLog b turns) (s.visit b turns) := by
  induction turns generalizing s with
  | nil => exact .start
  | cons t rest ih => exact (course_turn b s t).trans (ih _)

/-- What is done during a turn is its action. -/
theorem deeds_turnLog (b : Backend β) (s : Session β) (t : Turn) :
    deeds (s.turnLog b t) =
      (t.action?.map fun a => { instant := s.now, action := a : Deed }).toList := by
  cases t with
  | act a => exact deeds_actLog b s a
  | readLog start errorsOnly => exact deeds_runLog b _ s
  | readTaskConfig task => exact deeds_runLog b _ s

/-- The deeds of a visit are the actions of its turns, in order. -/
theorem deeds_visitLog (b : Backend β) (s : Session β) (turns : List Turn) :
    (deeds (s.visitLog b turns)).map Deed.action = turns.filterMap Turn.action? := by
  induction turns generalizing s with
  | nil => rfl
  | cons t rest ih =>
    rw [visitLog, deeds_append, deeds_turnLog, List.map_append, ih, List.filterMap_cons]
    cases t.action? <;> rfl

/-- Every call of a turn is answered, in the order of the calls. -/
theorem endpoints_ownAnswers_turnLog (b : Backend β) (s : Session β) (t : Turn) :
    (ownAnswers (s.turnLog b t)).map Reply.endpoint = ownCalls (s.turnLog b t) := by
  cases t with
  | act a => exact endpoints_ownAnswers_actLog b s a
  | readLog start errorsOnly => exact endpoints_ownAnswers b _ s
  | readTaskConfig task => exact endpoints_ownAnswers b _ s

/-! ## Calls for a dump -/

/-- A call that nothing is made of is the only one of its program. -/
theorem ownCalls_ask (b : Backend β) (s : Session β) (e : Endpoint) :
    ownCalls (s.runLog b (Program.ask e)) = [e] := by
  refine (congrArg ownCalls (runLog_call b e Program.done s)).trans ?_
  rw [ownCalls_append, ownCalls_append, ownCalls_gatherLog, ownCalls_answerLog]
  rfl

/-- A turn that is not about a dump does not fetch it. -/
theorem dump_notMem_ownCalls (b : Backend β) (s : Session β) {t : Turn} {kind : DumpKind}
    (other : t.isAboutDump kind = false) : .dump kind ∉ ownCalls (s.turnLog b t) := by
  cases t with
  | act a =>
    intro mem
    have wanted := (ownCalls_actLog b s a).1 (.dump kind) mem
    cases a with
    | operate o =>
      rw [Operation.dump_mem_wants wanted] at other
      cases other
    | _ => cases wanted
  | readLog start errorsOnly =>
    show _ ∉ ownCalls (runLog b (Program.ask (.log start errorsOnly)) s)
    rw [ownCalls_ask]
    simp
  | readTaskConfig task =>
    show _ ∉ ownCalls (runLog b (Program.ask (.taskConfig task)) s)
    rw [ownCalls_ask]
    simp

/-- A refresh of a dump fetches it, and so does a look at it as long as it was not fetched. -/
theorem count_ownCalls_turnLog (b : Backend β) (s : Session β) (t : Turn) (kind : DumpKind) :
    (ownCalls (s.turnLog b t)).count (.dump kind) =
      (t.action?.any (·.refreshesDump kind)).toNat
        + (t.action?.any (·.looksAtDump kind) && (s.dashboard.dumps kind).isNone).toNat := by
  have looked (made : ownCalls (s.turnLog b t) =
      if (s.dashboard.dumps kind).isNone then [.dump kind] else []) :
      (ownCalls (s.turnLog b t)).count (.dump kind) =
        (true && (s.dashboard.dumps kind).isNone).toNat := by
    rw [made]
    cases (s.dashboard.dumps kind).isNone <;> simp
  cases about : t.isAboutDump kind with
  | false =>
    rw [List.count_eq_zero.2 (dump_notMem_ownCalls b s about)]
    cases done : t.action? <;> simp_all [Turn.isAboutDump]
  | true =>
    rcases Turn.isAboutDump_cases about with rfl | rfl | ⟨rfl, rfl⟩
    · have made : ownCalls (s.runLog b (Operation.refreshDump kind).program) = [.dump kind] := by
        rw [Operation.program, runLog_then]
        exact (congrArg ownCalls (runLog_fetch b .debug _ s)).trans (ownCalls_fetchLog b .debug _ s)
      show (ownCalls (s.runLog b (Operation.refreshDump kind).program)).count (.dump kind) = _
      rw [made]
      simp [Turn.action?, Action.refreshesDump, Action.looksAtDump]
    · rw [looked]
      · simp [Turn.action?, Action.refreshesDump, Action.looksAtDump]
      · show ownCalls (s.runLog b (Operation.dumpText kind).program) = _
        rw [Operation.program, runLog_then, ownCalls_dumpText]
    · rw [looked]
      · simp [Turn.action?, Action.refreshesDump, Action.looksAtDump]
      · show ownCalls (s.runLog b (Operation.showTab .debug).program) = _
        rw [(run_operation b _ s).2, Operation.rest, runLog_then, Tab.content, runLog_then,
          ownCalls_dumpText]
        rfl

/-- A look at a dump comes first in its turn, so that it counts if nothing came in before. -/
theorem unservedLooks_turnLog (b : Backend β) (s : Session β) (t : Turn) (kind : DumpKind)
    (earlier : List Entry) :
    unservedLooks kind earlier (s.turnLog b t) =
      (t.action?.any (·.looksAtDump kind)
        && (lastAnswer (.dump kind) (answers earlier) : Option String).isNone).toNat := by
  cases t with
  | act a =>
    obtain ⟨rest, logged⟩ : ∃ rest,
        s.turnLog b (.act a) = { instant := s.now, incident := .act a } :: rest := ⟨_, rfl⟩
    have done := deeds_turnLog b s (.act a)
    rw [logged] at done ⊢
    rw [unservedLooks, unservedLooks_of_deeds_nil kind _ (List.cons.inj done).2, Nat.add_zero]
    cases looks : a.looksAtDump kind <;>
      cases (lastAnswer (.dump kind) (answers earlier) : Option String) <;>
        simp [Entry.looksAtDump, Turn.action?, looks]
  | readLog start errorsOnly =>
    exact unservedLooks_of_deeds_nil kind earlier (deeds_turnLog b s (.readLog start errorsOnly))
  | readTaskConfig task =>
    exact unservedLooks_of_deeds_nil kind earlier (deeds_turnLog b s (.readTaskConfig task))

/-- A turn refreshes a dump once if that is its action, and otherwise not at all. -/
theorem dumpRefreshes_turnLog (b : Backend β) (s : Session β) (t : Turn) (kind : DumpKind) :
    dumpRefreshes kind (s.turnLog b t) = (t.action?.any (·.refreshesDump kind)).toNat := by
  rw [dumpRefreshes, deeds_turnLog]
  cases t.action? with
  | none => rfl
  | some a => cases refreshes : a.refreshesDump kind <;> simp [refreshes]

/-- Over turns, the calls for a dump are its refreshes and the looks at it that nothing was there
for. -/
theorem count_ownCalls_visitLog (b : Backend β) (kind : DumpKind) (turns : List Turn)
    {earlier : List Entry} {s : Session β}
    (held : s.dashboard.dumps kind = lastAnswer (.dump kind) (answers earlier)) :
    (ownCalls (s.visitLog b turns)).count (.dump kind) =
      dumpRefreshes kind (s.visitLog b turns) + unservedLooks kind earlier (s.visitLog b turns) := by
  induction turns generalizing earlier s with
  | nil => rfl
  | cons t rest ih =>
    have after : (s.turn b t).dashboard.dumps kind =
        lastAnswer (.dump kind) (answers (earlier ++ s.turnLog b t)) := by
      rw [(updated_course (course_turn b s t)).dumps, held, answers_append, lastAnswer_append]
    rw [visitLog, ownCalls_append, List.count_append, dumpRefreshes_append, unservedLooks_append,
      ih after, count_ownCalls_turnLog, dumpRefreshes_turnLog, unservedLooks_turnLog, held]
    omega

/-- A turn that is not about a dump leaves it as it is. -/
theorem dumps_turn (b : Backend β) (s : Session β) {t : Turn} {kind : DumpKind}
    (other : t.isAboutDump kind = false) :
    (s.turn b t).dashboard.dumps kind = s.dashboard.dumps kind := by
  have course := course_turn b s t
  have unfetched : lastAnswer (.dump kind) (answers (s.turnLog b t)) = none := by
    rw [lastAnswer_arrivals]
    · refine lastAnswer_eq_none fun r mem same => ?_
      have polled := polled_course course r mem
      rw [isPolled, same] at polled
      cases polled
    · intro r mem same
      refine dump_notMem_ownCalls b s other ?_
      rw [← endpoints_ownAnswers_turnLog, ← same]
      exact List.mem_map_of_mem mem
  rw [(updated_course course).dumps, unfetched]
  rfl

end Session

/-! ## The law -/

/-- What is called for and shown of a dump is what the log of a session makes it. -/
structure DumpLaw (kind : DumpKind) (log : List Entry) (d : Dashboard) : Prop where
  /-- A call is made for each refresh, and for each look when no call had succeeded. -/
  calls : (callsIn log).count (.dump kind) =
    dumpRefreshes kind log + unservedLooks kind [] log
  /-- The text of the last successful call is shown, or else a placeholder. -/
  text : d.dumpText kind = (lastAnswer (.dump kind) (answers log)).getD dumpPlaceholder

/-- What another turn does to a dump. -/
structure DumpTurn {β : Type} (b : Backend β) (s : Session β) (kind : DumpKind) : Prop where
  /-- A look tells the text that is shown from then on. -/
  told : (s.act b (.operate (.dumpText kind))).1 =
    .text ((s.act b (.operate (.dumpText kind))).2.dashboard.dumpText kind)
  /-- What is not about the dump makes no call for it, and leaves it as it is. -/
  apart : ∀ t : Turn, t.isAboutDump kind = false → .dump kind ∉ callsIn (s.turnLog b t) ∧
    (s.turn b t).dashboard.dumps kind = s.dashboard.dumps kind

/-- Whatever a user does and whatever a backend answers, a dump is fetched when it is first looked
at, again as long as that fails, and whenever it is refreshed.  The backend gets these calls, and what
is done about one kind of dump leaves the others alone. -/
theorem dumpLaw_visit {β : Type} (b : Backend β) (settings : Settings) (backend : β)
    (turns : List Turn) :
    let start := Session.start settings backend
    let log := start.visitLog b turns
    let last := start.visit b turns
    (deeds log).map Deed.action = turns.filterMap Turn.action? ∧
      (∀ kind, DumpLaw kind log last.dashboard ∧ DumpTurn b last kind) ∧
      ∀ calls, b.Remembers calls → calls last.backend = calls backend ++ callsIn log := by
  intro start log last
  have course := Session.course_visit b start turns
  refine ⟨Session.deeds_visitLog b start turns, fun kind => ⟨⟨?_, ?_⟩, ⟨?_, ?_⟩⟩, ?_⟩
  · rw [count_callsIn_dump]
    exact Session.count_ownCalls_visitLog b kind turns rfl
  · exact (Session.updated_course course).dumpText rfl
  · exact Session.text_dumpText b last kind
  · intro t other
    refine ⟨?_, Session.dumps_turn b last other⟩
    rw [← List.count_eq_zero, count_callsIn_dump, List.count_eq_zero]
    exact Session.dump_notMem_ownCalls b last other
  · exact fun calls remembers => Session.calls_course remembers course

end IngestConsole.Dashboard
