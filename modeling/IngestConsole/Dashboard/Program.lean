import IngestConsole.Dashboard.Basic

/-!
# Programs

What an operation of the dashboard does, step by step.  A program says which calls are made and what
becomes of their answers; who makes the calls, and what happens while an answer is awaited, is left
to the one who runs it.
-/

set_option autoImplicit false

namespace IngestConsole.Dashboard

open Service Wire

/-- An operation that ends in an `α`. -/
inductive Program (α : Type) : Type
  | done (a : α)
  /-- Goes on with what the dashboard shows. -/
  | look (next : Dashboard → Program α)
  /-- Changes what the dashboard shows. -/
  | change (f : Dashboard → Dashboard) (next : Program α)
  /-- Makes a call and waits for its answer. -/
  | call (e : Endpoint) (next : e.Result → Program α)
  /-- Makes several calls at once and waits for all answers. -/
  | gather (calls : List Endpoint) (next : List Reply → Program α)

namespace Program

variable {α β : Type}

/-- One operation after another. -/
def bind (p : Program α) (f : α → Program β) : Program β :=
  match p with
  | done a => f a
  | look next => look fun d => (next d).bind f
  | change g next => change g (next.bind f)
  | call e next => call e fun r => (next r).bind f
  | gather calls next => gather calls fun rs => (next rs).bind f

instance : Monad Program where
  pure := done
  bind := bind

/-- What the dashboard shows. -/
def dashboard : Program Dashboard :=
  look done

/-- Changes what the dashboard shows. -/
def modify (f : Dashboard → Dashboard) : Program Unit :=
  change f (done ())

/-- The end of a call. -/
def ask (e : Endpoint) : Program e.Result :=
  call e done

/-- Makes calls for a panel and takes their answers in; tells whether all of them succeeded. -/
def fetch (panel : Panel) (calls : List Endpoint) : Program Bool := do
  modify (·.setLoading panel true)
  let replies ← gather calls done
  modify (·.setLoading panel false)
  modify (replies.foldl absorb)
  pure (replies.all Reply.isOk)

/-- Fetches the process info, the configuration and the launch options. -/
def load : Program Bool :=
  fetch .global [.processInfo, .config, .launchOptions]

/-- Fetches the process info. -/
def refreshOverview : Program Bool :=
  fetch .overview [.processInfo]

/-- Fetches the list of tasks; filter, sorting and page survive. -/
def refreshTasks : Program Bool :=
  fetch .tasks [.tasks]

/-- Fetches the configuration and the launch options. -/
def refreshConfig : Program Bool :=
  fetch .config [.config, .launchOptions]

/-- Fetches a dump. -/
def refreshDump (kind : DumpKind) : Program Bool :=
  fetch .debug [.dump kind]

/-- Has the service read its tasks again, and then fetches them. -/
def reloadTasks : Program (Except CallError Unit) := do
  match ← ask .reloadTasks with
  | .error e => pure (.error e)
  | .ok _ => do
    let _ ← refreshTasks
    pure (.ok ())

/-- Has the service read its configuration again, and then fetches it. -/
def reloadConfig : Program (Except CallError Unit) := do
  match ← ask .reloadConfig with
  | .error e => pure (.error e)
  | .ok _ => do
    let _ ← refreshConfig
    pure (.ok ())

/-- The text of a dump, which is fetched unless it was fetched before. -/
def dumpText (kind : DumpKind) : Program String := do
  let d ← dashboard
  if (d.dumps kind).isNone then
    let _ ← refreshDump kind
  pure ((← dashboard).dumpText kind)

/-- Shows a tab and fetches what it shows. -/
def showTab (tab : Tab) : Program Unit := do
  modify fun d => { d with tab }
  match tab with
  | .overview => let _ ← refreshOverview
  | .tasks => let _ ← refreshTasks
  | .config => let _ ← refreshConfig
  | .debug => let _ ← dumpText .heap

/-- Fetches the status of the open task out of turn; tells whether the answer was accepted. -/
def refreshStatus : Program Bool := do
  match (← dashboard).status.fetch? with
  | none => pure false
  | some fetch =>
    let result ← ask (.taskStatus fetch.task)
    let isAccepted := (← dashboard).status.accepts { fetch, result }
    modify fun d => { d with status := d.status.take { fetch, result } }
    pure isAccepted

end Program

end IngestConsole.Dashboard
