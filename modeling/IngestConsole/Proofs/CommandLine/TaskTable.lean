import IngestConsole.Proofs.CommandLine.Unwatched
import IngestConsole.Proofs.Table.PageInvariant

/-!
# The table of tasks

Listing tasks drives a view step by step: it changes the filter, selects the column once or twice,
and then a page size and a page.  What is printed is the table of a single page, cut from the list
that the service gave by the selection as the user spelled it.
-/

set_option autoImplicit false

namespace IngestConsole.CommandLine

open Calendar Dashboard Service Table Wire

/-! ## The selection of a query -/

/-- What a query selects, written down at once: an empty kind or state is no condition, and the page
is the requested one, whether it exists or not. -/
def TaskQuery.selection (q : TaskQuery) : ViewState where
  filter :=
    { name := q.name.getD ""
      kind := (q.kind.filter (· ≠ "")).map .ofText
      status := (q.status.filter (· ≠ "")).map .ofText }
  sort :=
    { field := q.sort
      order := if q.isDescending then .descending else .ascending }
  page :=
    { pageSize := q.pageSize
      currentPage := q.page.toNat }

namespace TaskQuery

/-- An empty text removes a condition; so does its absence, where there was no condition. -/
theorem condition_eq {α : Type} (ofText : String → α) (text : Option String) :
    (match text with
      | some s => if s.isEmpty then none else some (ofText s)
      | none => none) = (text.filter (· ≠ "")).map ofText := by
  cases text with
  | none => rfl
  | some s =>
    by_cases empty : s = ""
    · simp [empty]
    · simp [empty, Option.filter]

/-- A new table that is filtered as a query asks has the filter of its selection. -/
theorem merge_filter (q : TaskQuery) : ({} : Filter).merge q.filter = q.selection.filter := by
  have kind := condition_eq TaskKind.ofText q.kind
  have status := condition_eq TaskStatus.ofText q.status
  exact congrArg₂ (Table.Filter.mk (q.name.getD "")) kind status

/-- A page size and a page that are selected last leave nothing of the page that was selected
before. -/
theorem setPageSize_setPage {q : TaskQuery} {v : View}
    (filter : v.state.filter = q.selection.filter) (sort : v.state.sort = q.selection.sort) :
    (v.setPageSize q.pageSize).setPage q.page.toNat =
      View.setPage { tasks := v.tasks, state := q.selection } q.page.toNat := by
  rcases v with ⟨tasks, state⟩
  rcases state with ⟨filter', sort', page'⟩
  obtain rfl : filter' = q.selection.filter := filter
  obtain rfl : sort' = q.selection.sort := sort
  rfl

/-- Driving a view whose user selected nothing yet comes to the selection, with its page brought
onto an existing one. -/
theorem view_eq {q : TaskQuery} (sorted : q.isDescending = true → q.sort.isSome) {v : View}
    (filter : v.state.filter = {}) (sort : v.state.sort = {}) :
    q.view v = View.setPage { tasks := v.tasks, state := q.selection } q.page.toNat := by
  have merged : (v.setFilter q.filter).state.filter = q.selection.filter := by
    rw [← merge_filter, ← filter]
    rfl
  have unsorted : (v.setFilter q.filter).state.sort = {} := sort
  unfold TaskQuery.view
  -- a column is selected once, and a second time to turn its order around
  cases column : q.sort with
  | none =>
    have ascending : q.isDescending = false := by
      cases descending : q.isDescending with
      | false => rfl
      | true =>
        have some_column := sorted descending
        rw [column] at some_column
        cases some_column
    refine setPageSize_setPage (v := v.setFilter q.filter) merged ?_
    rw [unsorted, selection, column, ascending]
    rfl
  | some f =>
    have once : ((v.setFilter q.filter).setSort f).state.sort =
        { field := some f, order := .ascending } := by
      show (v.setFilter q.filter).state.sort.select f = _
      rw [unsorted]
      rfl
    cases descending : q.isDescending with
    | false =>
      refine setPageSize_setPage (v := (v.setFilter q.filter).setSort f) merged ?_
      rw [selection, column, descending]
      exact once
    | true =>
      have twice : (((v.setFilter q.filter).setSort f).setSort f).state.sort =
          { field := some f, order := .descending } := by
        show ((v.setFilter q.filter).setSort f).state.sort.select f = _
        rw [once, Sorting.select, if_pos rfl]
        rfl
      refine setPageSize_setPage (v := ((v.setFilter q.filter).setSort f).setSort f) merged ?_
      rw [selection, column, descending]
      exact twice

/-- A new view under a query shows the page of its selection. -/
theorem view_page {q : TaskQuery} (sorted : q.isDescending = true → q.sort.isSome) {v : View}
    (filter : v.state.filter = {}) (sort : v.state.sort = {}) :
    (q.view v).page = project v.tasks q.selection := by
  rw [view_eq sorted filter sort, View.page_setPage]
  rfl

/-- A new view under a query is sorted as its selection says. -/
theorem view_sort {q : TaskQuery} (sorted : q.isDescending = true → q.sort.isSome) {v : View}
    (filter : v.state.filter = {}) (sort : v.state.sort = {}) :
    (q.view v).state.sort = q.selection.sort := by
  rw [view_eq sorted filter sort]
  rfl

end TaskQuery

/-! ## The run -/

/-- Fetching the tasks brings the tasks that are given. -/
theorem eval_refreshTasks {answer : (e : Endpoint) → e.Result} {list : TaskList}
    (good : answer .tasks = .ok list) (d : Dashboard) :
    ∃ shown, Program.refreshTasks.eval answer d = (true, shown, [.tasks]) ∧
      shown.tasks = d.tasks.replaceTasks list.tasks := by
  let waited := (d.setLoading .tasks true).setLoading .tasks false
  refine ⟨waited.absorb ⟨.tasks, .ok list⟩, ?_, rfl⟩
  have reply : (⟨.tasks, answer .tasks⟩ : Reply) = ⟨.tasks, .ok list⟩ := by rw [good]
  calc Program.refreshTasks.eval answer d
      = (Reply.isOk ⟨.tasks, answer .tasks⟩ && true, waited.absorb ⟨.tasks, answer .tasks⟩,
          [.tasks]) := rfl
    _ = _ := by
        rw [reply]
        rfl

/-- Printing tasks prints the page of the selection of the tasks that are given. -/
theorem eval_tasksProgram {q : TaskQuery} (sorted : q.isDescending = true → q.sort.isSome)
    {answer : (e : Endpoint) → e.Result} {list : TaskList} (good : answer .tasks = .ok list)
    (offset : Offset) {d : Dashboard} (fresh : d.tasks = {}) :
    ∃ shown, (tasksProgram q offset).eval answer d =
      (.ok (tableText (project list.tasks q.selection) q.selection.sort offset), shown,
        [.tasks]) := by
  obtain ⟨shown, fetched, tasks⟩ := eval_refreshTasks good d
  rw [fresh] at tasks
  have filter : shown.tasks.state.filter = {} := by
    rw [tasks]
    rfl
  have sort : shown.tasks.state.sort = {} := by
    rw [tasks]
    rfl
  have served : shown.tasks.tasks = list.tasks := by
    rw [tasks]
    rfl
  have page := TaskQuery.view_page sorted filter sort
  have selected := TaskQuery.view_sort sorted filter sort
  rw [served] at page
  refine ⟨{ shown with tasks := q.view shown.tasks }, ?_⟩
  simp only [tasksProgram, Program.eval_bind, fetched, if_true, Program.eval_modify,
    Program.eval_dashboard, Program.eval_pure, List.append_nil, page, selected]

/-- A console that got a list prints the table of the page that the selection cuts from it, and asked
for nothing but the list. -/
theorem Invocation.run_tasks {i : Invocation} {q : TaskQuery} (command : i.command = .tasks q)
    (sorted : q.isDescending = true → q.sort.isSome) {client : Client}
    (connected : i.connect = .ok client) {r : Request}
    (sent : Endpoint.tasks.request client.base = .ok r) {respond : Request → Response}
    {list : TaskList} (served : (respond r).Gives .tasks list) (offset : Offset) (polls : Nat) :
    i.run respond offset polls =
      (.ok (tableText (project list.tasks q.selection) q.selection.sort offset), [r]) := by
  obtain ⟨request, sends⟩ := Invocation.exists_requests connected
  have unwatched : ¬i.command.Watches := by
    rw [command]
    exact id
  have here : request .tasks = r := Except.ok.inj ((sends .tasks).symm.trans sent)
  have good : client.call respond .tasks = .ok list := by
    rw [Client.call_of_request sent]
    exact ((classified_read .tasks (respond r)).ok list).2 served
  have fresh : (ofSettings i.settings).tasks = {} := rfl
  obtain ⟨shown, ended⟩ := eval_tasksProgram sorted good offset fresh
  have program : i.command.program offset = tasksProgram q offset := by
    rw [command]
    rfl
  rw [i.run_eq_eval connected unwatched sends, program, ended]
  simp only [List.map_cons, List.map_nil, here]
  rfl

/-! ## Command lines -/

/-- No command line asks for a descending order without a column to sort by. -/
theorem QueryOptions.sort_of_query {o : QueryOptions} {q : TaskQuery} (made : o.query = .ok q)
    (descending : q.isDescending = true) : q.sort.isSome := by
  unfold QueryOptions.query at made
  dsimp only at made
  split at made
  · cases made
  · next sorted =>
    cases made
    cases column : o.sort with
    | none =>
      have ascending : o.isDescending = false := by simpa [column] using sorted
      exact absurd descending (by simp [ascending])
    | some f => rfl

/-- Arguments that turn an order round name a field to sort by. -/
theorem sort_of_readCommand {name : String} {args : List String} {q : TaskQuery}
    (read : readCommand name args = .ok (.tasks q)) (descending : q.isDescending = true) :
    q.sort.isSome := by
  unfold readCommand at read
  split at read
  case h_2 =>
    obtain ⟨made, query, same⟩ := exists_of_map_eq_ok read
    cases same
    obtain ⟨options, -, query⟩ := exists_of_bind_eq_ok query
    exact QueryOptions.sort_of_query query descending
  case h_9 => cases read
  case h_10 => cases read
  all_goals
    obtain ⟨made, -, same⟩ := exists_of_map_eq_ok read
    cases same

/-- What a command line asks for is read from its command's own arguments. -/
theorem Invocation.readCommand_of_parse {environment : String → Option String}
    {args : List String} {i : Invocation} (parsed : Invocation.parse environment args = .ok i) :
    ∃ name others, readCommand name others = .ok i.command := by
  obtain ⟨⟨progress, rest⟩, -, read⟩ := exists_of_bind_eq_ok parsed
  rcases rest with _ | ⟨name, others⟩
  · obtain ⟨command, absent, read⟩ := exists_of_bind_eq_ok read
    obtain ⟨given, -, read⟩ := exists_of_bind_eq_ok read
    obtain ⟨options, -, read⟩ := exists_of_bind_eq_ok read
    cases absent
    cases read
  · obtain ⟨command, present, read⟩ := exists_of_bind_eq_ok read
    obtain ⟨given, -, read⟩ := exists_of_bind_eq_ok read
    obtain ⟨options, -, read⟩ := exists_of_bind_eq_ok read
    obtain ⟨c, found, rfl⟩ := exists_of_map_eq_ok present
    cases read
    exact ⟨name, others, found⟩

/-- A command line that turns an order round names a field to sort by. -/
theorem Invocation.sort_of_parse {environment : String → Option String} {args : List String}
    {i : Invocation} (parsed : Invocation.parse environment args = .ok i) {q : TaskQuery}
    (command : i.command = .tasks q) (descending : q.isDescending = true) : q.sort.isSome := by
  obtain ⟨name, others, read⟩ := Invocation.readCommand_of_parse parsed
  rw [command] at read
  exact sort_of_readCommand read descending

/-- Whatever list of tasks a service gives, and whatever is asked of it, what is printed is the table
of the one page that the selection cuts from the list.  A query may be any whose descending order
has a column, and no command line spells another. -/
theorem tasks_print_projection {client : Client} {r : Request}
    (sent : Endpoint.tasks.request client.base = .ok r) {respond : Request → Response}
    {list : TaskList} (served : (respond r).Gives .tasks list) (offset : Offset) (polls : Nat) :
    (∀ (i : Invocation) (q : TaskQuery), i.command = .tasks q → i.connect = .ok client →
      (q.isDescending = true → q.sort.isSome) →
        i.run respond offset polls =
          (.ok (tableText (project list.tasks q.selection) q.selection.sort offset), [r])) ∧
    ∀ (environment : String → Option String) (args : List String) (i : Invocation) (q : TaskQuery),
      Invocation.parse environment args = .ok i → i.command = .tasks q → i.connect = .ok client →
        runArguments environment args respond offset polls =
          (.ok (tableText (project list.tasks q.selection) q.selection.sort offset), [r]) := by
  refine ⟨?_, ?_⟩
  · intro i q command connected sorted
    exact Invocation.run_tasks command sorted connected sent served offset polls
  · intro environment args i q parsed command connected
    have sorted : q.isDescending = true → q.sort.isSome := Invocation.sort_of_parse parsed command
    rw [runArguments, parsed]
    exact Invocation.run_tasks command sorted connected sent served offset polls

/-- A command line that asks for the slowest metrics, on a page beyond the last. -/
def slowestLine : List String :=
  ["--url", "http://127.0.0.1:2112/console/", "--timeout-ms", "5000", "tasks", "--type", "metric",
   "--sort", "lag", "--desc", "--page", "9", "--page-size", "10"]

/-- A list of two metrics and a log. -/
def threeTasks : TaskList where
  tasks :=
    [{ name := "a", kind := some .metric, lag := 1 }, { name := "b", kind := some .log },
     { name := "c", kind := some .metric, lag := 5 }]
  total := 3

/-- Of these three tasks the two metrics are printed, the slower one first. -/
theorem tasks_print_projection_slowest :
    let q : TaskQuery :=
      { kind := some "metric", sort := some .lag, isDescending := true, page := 9, pageSize := .ten }
    let respond : Request → Response := fun _ => .answered 200 <| Text.utf8
      ("\x7b\"retCode\":\"0000\",\"entity\":\x7b\"Tasks\":[\x7b\"Name\":\"a\",\"Type\":\"metric\",\"Lag\":1\x7d,"
        ++ "\x7b\"Name\":\"b\",\"Type\":\"log\"\x7d,\x7b\"Name\":\"c\",\"Type\":\"metric\",\"Lag\":5\x7d],"
        ++ "\"Total\":3\x7d\x7d").toList
    runArguments (fun _ => none) slowestLine respond 0 0 =
      (.ok (tableText (project threeTasks.tasks q.selection) q.selection.sort 0),
        [{ method := .get, target := "/console/api/v1/tasks" }]) ∧
    (project threeTasks.tasks q.selection).items.map (·.name) = ["c", "a"] ∧
    (project threeTasks.tasks q.selection).currentPage = 1 := by
  intro q respond
  have sent : Endpoint.tasks.request Client.loopback.base =
      .ok { method := .get, target := "/console/api/v1/tasks" } :=
    eq_ok_of_toOption (by decide +kernel)
  have read : Endpoint.tasks.read (respond { method := .get, target := "/console/api/v1/tasks" }) =
      .ok threeTasks :=
    eq_ok_of_toOption (by decide +kernel)
  have served := ((classified_read .tasks _).ok threeTasks).1 read
  obtain ⟨-, printed⟩ := tasks_print_projection sent served 0 0
  have parsed : Invocation.parse (fun _ => none) slowestLine =
      .ok { reloadInvocation with command := .tasks q } :=
    eq_ok_of_toOption (by decide +kernel)
  have connected : Invocation.connect { reloadInvocation with command := .tasks q } =
      .ok Client.loopback :=
    eq_ok_of_toOption (by decide +kernel)
  have rows : filterAndSort threeTasks.tasks q.selection.filter q.selection.sort =
      [{ name := "c", kind := some .metric, lag := 5 },
       { name := "a", kind := some .metric, lag := 1 }] := by
    cbv
  refine ⟨printed _ _ _ q parsed rfl connected, ?_, ?_⟩
  · rw [project, rows]
    decide +kernel
  · rw [project, rows]
    decide +kernel

end IngestConsole.CommandLine
