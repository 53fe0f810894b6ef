import IngestConsole.CommandLine.Invocation
import IngestConsole.Proofs.CommandLine.AttachedOptions
import IngestConsole.Proofs.Numeral.Unsigned
import IngestConsole.Proofs.Table.ColumnNames

/-!
# Arguments of a task query

A query is spelled by one argument for each value that it has.  In every order, whatever the texts
are and however the column is spelled, these arguments are read as the query, unless it asks for a
descending order and has no column.
-/

set_option autoImplicit false

namespace IngestConsole.CommandLine

open Numeral Table

/-! ## Single arguments -/

/-- One value of a query. -/
inductive Assignment
  | name (text : String)
  | kind (text : String)
  | status (text : String)
  | sort (field : SortField)
  | descending
  | page (number : UInt64)
  | pageSize (size : PageSize)
  deriving DecidableEq

namespace Assignment

/-- An argument that gives the value. -/
inductive SpelledBy : Assignment → String → Prop
  | name (text : String) : SpelledBy (.name text) (attached "name" text)
  | kind (text : String) : SpelledBy (.kind text) (attached "type" text)
  | status (text : String) : SpelledBy (.status text) (attached "status" text)
  | sort {field : SortField} {text : String} (spelled : field.SpelledBy text) :
      SpelledBy (.sort field) (attached "sort" text)
  | descending : SpelledBy .descending "--desc"
  | page (number : UInt64) : SpelledBy (.page number) (attached "page" (natText number.toNat))
  | pageSize (size : PageSize) :
      SpelledBy (.pageSize size) (attached "page-size" (natText size.toNat))

/-- The option of the value was given already. -/
def isGiven : Assignment → QueryOptions → Bool
  | name _ => fun o => o.name.isSome
  | kind _ => fun o => o.kind.isSome
  | status _ => fun o => o.status.isSome
  | sort _ => fun o => o.sort.isSome
  | descending => fun o => o.isDescending
  | page _ => fun o => o.page.isSome
  | pageSize _ => fun o => o.pageSize.isSome

/-- The options with the value. -/
def put : Assignment → QueryOptions → QueryOptions
  | name text => fun o => { o with name := some text }
  | kind text => fun o => { o with kind := some text }
  | status text => fun o => { o with status := some text }
  | sort field => fun o => { o with sort := some field }
  | descending => fun o => { o with isDescending := true }
  | page number => fun o => { o with page := some number }
  | pageSize size => fun o => { o with pageSize := some size }

/-- Gives the value unless its option was given. -/
def assign (a : Assignment) : QueryOptions → Except UsageError QueryOptions :=
  once a.isGiven fun o => .ok (a.put o)

/-- A size of pages is read from its numeral. -/
theorem readPageSize_natText (size : PageSize) : readPageSize (natText size.toNat) = .ok size := by
  cases size <;> decide

/-- A number of 64 bits is read from its numeral. -/
theorem readCount_natText (n : UInt64) : readCount (natText n.toNat) = .ok n := by
  rw [readCount, readUInt64_natText]
  rfl

/-- An option that keeps what it reads takes the value that its text is read as. -/
theorem takes_keep {a : Assignment} {name text : String} {p : Parameter QueryOptions}
    (found : queryGrammar.parameters.find? (·.name == name) = some p) (noSign : '=' ∉ name.toList)
    {α : Type} {get : QueryOptions → Option α} {read : String → Except UsageError α}
    {put : α → QueryOptions → QueryOptions} (effect : p.effect = keep get read put) {v : α}
    (value : read text = .ok v)
    (same : (once (fun o => (get o).isSome) fun o => .ok (put v o)) = a.assign) :
    queryGrammar.Takes (attached name text) a.assign := by
  have takes := Grammar.takes_value found effect noSign text
  rw [value] at takes
  rw [← same]
  exact takes

/-- An argument that spells a value of a query sets it. -/
theorem takes_of_spelledBy {a : Assignment} {arg : String} (spelled : a.SpelledBy arg) :
    queryGrammar.Takes arg a.assign := by
  cases spelled with
  | name text => exact takes_keep rfl (by decide) rfl rfl rfl
  | kind text => exact takes_keep rfl (by decide) rfl rfl rfl
  | status text => exact takes_keep rfl (by decide) rfl rfl rfl
  | sort spelled =>
    refine takes_keep rfl (by decide) rfl ?_ rfl
    rw [SortField.ofText_of_spelledBy spelled]
    rfl
  | descending =>
    have form : Form.of "--desc" = .long "desc" none := by decide
    exact Grammar.takes_flag rfl rfl form
  | page number => exact takes_keep rfl (by decide) rfl (readCount_natText number) rfl
  | pageSize size => exact takes_keep rfl (by decide) rfl (readPageSize_natText size) rfl

/-- Two values of one option exclude each other in both orders, and values of two options do not
touch each other. -/
theorem assign_comm (a b : Assignment) (o : QueryOptions) :
    (a.assign o).bind b.assign = (b.assign o).bind a.assign := by
  unfold assign
  cases a <;> cases b
  all_goals
    first
    | apply once_comm_self
    | apply once_comm
  all_goals
    intro _
    rfl

end Assignment

/-! ## Whole queries -/

/-- Gives values one after the other. -/
def assignAll (as : List Assignment) (o : QueryOptions) : Except UsageError QueryOptions :=
  as.foldl (fun done a => done.bind a.assign) (.ok o)

/-- Values are assigned one after another. -/
theorem assignAll_append {as bs : List Assignment} {o o' : QueryOptions}
    (first : assignAll as o = .ok o') : assignAll (as ++ bs) o = assignAll bs o' := by
  rw [assignAll, List.foldl_append, ← assignAll, first, ← assignAll]

/-- The order of the values does not matter. -/
theorem assignAll_perm {as bs : List Assignment} (order : as.Perm bs) (o : QueryOptions) :
    assignAll as o = assignAll bs o := by
  apply order.foldl_eq'
  intro a _ b _ done
  cases done with
  | error e => rfl
  | ok r => exact Assignment.assign_comm a b r

/-- Arguments that spell values of a query are read as these values, in their order. -/
theorem read_spelled {as : List Assignment} {args : List String}
    (spelled : List.Forall₂ Assignment.SpelledBy as args) (o : QueryOptions) :
    queryGrammar.read o args = assignAll as o := by
  have each : List.Forall₂ queryGrammar.Takes args (as.map Assignment.assign) := by
    rw [List.forall₂_map_right_iff]
    exact (spelled.imp fun a arg one => Assignment.takes_of_spelledBy one).flip
  rw [Grammar.read_of_takes rfl each, List.foldl_map]
  rfl

namespace TaskQuery

/-- The values that a query has; the page and its size always have one. -/
def assignments (q : TaskQuery) : List Assignment :=
  List.flatten
    [(q.name.map .name).toList, (q.kind.map .kind).toList, (q.status.map .status).toList,
     (q.sort.map .sort).toList, if q.isDescending then [.descending] else [],
     [.page q.page, .pageSize q.pageSize]]

/-- The options of a query whose values are all given. -/
def options (q : TaskQuery) : QueryOptions where
  name := q.name
  kind := q.kind
  status := q.status
  sort := q.sort
  isDescending := q.isDescending
  page := some q.page
  pageSize := some q.pageSize

/-- The values of a query make its options. -/
theorem assignAll_assignments (q : TaskQuery) : assignAll q.assignments {} = .ok q.options := by
  rcases q with ⟨name, kind, status, sort, isDescending, page, pageSize⟩
  have ofName : assignAll (name.map Assignment.name).toList {} = .ok { name } := by
    cases name <;> rfl
  have ofKind : assignAll (kind.map Assignment.kind).toList { name } = .ok { name, kind } := by
    cases kind <;> rfl
  have ofStatus : assignAll (status.map Assignment.status).toList { name, kind }
      = .ok { name, kind, status } := by
    cases status <;> rfl
  have ofSort : assignAll (sort.map Assignment.sort).toList { name, kind, status }
      = .ok { name, kind, status, sort } := by
    cases sort <;> rfl
  have ofOrder : assignAll (if isDescending then [Assignment.descending] else [])
      { name, kind, status, sort } = .ok { name, kind, status, sort, isDescending } := by
    cases isDescending <;> rfl
  simp only [assignments, List.flatten_cons]
  rw [assignAll_append ofName, assignAll_append ofKind, assignAll_append ofStatus,
    assignAll_append ofSort, assignAll_append ofOrder]
  rfl

end TaskQuery

/-! ## Command lines -/

/-- The command takes all arguments behind its name, and nothing is taken from the environment. -/
theorem parse_tasks (args : List String) :
    Invocation.parse (fun _ => none) ("tasks" :: args) =
      ((queryGrammar.read {} args).bind QueryOptions.query).map fun q =>
        ({} : GlobalOptions).invocation (.tasks q) := by
  have command : globalGrammar.scan { record := {} } ("tasks" :: args) =
      .ok ({ record := {} }, some ("tasks", args)) := rfl
  have read : readCommand "tasks" args =
      ((queryGrammar.read {} args).bind QueryOptions.query).map .tasks := rfl
  unfold Invocation.parse
  rw [command]
  show ((readCommand "tasks" args).map some).bind _ = _
  rw [read]
  cases (queryGrammar.read {} args).bind QueryOptions.query <;> rfl

/-- The options of a query are read as it, unless they are to be turned round without a field to
sort by. -/
theorem query_options (q : TaskQuery) :
    q.options.query =
      if q.isDescending && q.sort.isNone then .error .missingArgument else .ok q := by
  rfl

/-- The arguments that spell the values of a query, in any order and after the name of the command,
are read as just this query, with the defaults for everything else.  A descending order without a
column is always refused for the missing column. -/
theorem parse_spelled_query {q : TaskQuery} {as : List Assignment} (order : as.Perm q.assignments)
    {args : List String} (spelled : List.Forall₂ Assignment.SpelledBy as args) :
    ((q.isDescending = true → q.sort.isSome) →
      Invocation.parse (fun _ => none) ("tasks" :: args) =
        .ok (({} : GlobalOptions).invocation (.tasks q)))
      ∧ (q.isDescending = true → q.sort = none →
        Invocation.parse (fun _ => none) ("tasks" :: args) = .error .missingArgument) := by
  have read : queryGrammar.read {} args = .ok q.options := by
    rw [read_spelled spelled, assignAll_perm order, q.assignAll_assignments]
  have parsed : Invocation.parse (fun _ => none) ("tasks" :: args) =
      q.options.query.map fun q => ({} : GlobalOptions).invocation (.tasks q) := by
    rw [parse_tasks, read]
    rfl
  rw [query_options] at parsed
  refine ⟨?_, ?_⟩
  · intro sorted
    have complete : ¬(q.isDescending && q.sort.isNone) = true := by
      intro missing
      obtain ⟨descending, unsorted⟩ := Bool.and_eq_true_iff.1 missing
      have column := sorted descending
      rw [Option.isNone_iff_eq_none.1 unsorted] at column
      cases column
    rw [parsed, if_neg complete]
    rfl
  · intro descending unsorted
    have missing : (q.isDescending && q.sort.isNone) = true := by
      rw [descending, unsorted]
      rfl
    rw [parsed, if_pos missing]
    rfl

/-- A query with texts that are empty or look like options, and with the last page there is. -/
def oddQuery : TaskQuery where
  name := some ""
  kind := some "--desc"
  sort := some .consumerGroup
  isDescending := true
  page := 18446744073709551615
  pageSize := .hundred

/-- Its values in an order of their own. -/
def oddAssignments : List Assignment :=
  [.pageSize .hundred, .descending, .kind "--desc", .page 18446744073709551615,
   .sort .consumerGroup, .name ""]

/-- The arguments that spell them, the column with marks and in mixed case. -/
def oddArguments : List String :=
  ["--page-size=100", "--desc", "--type=--desc", "--page=18446744073709551615",
   "--sort=_consumer-GROUP", "--name="]

/-- The odd arguments spell the odd values. -/
theorem spelledBy_oddArguments :
    List.Forall₂ Assignment.SpelledBy oddAssignments oddArguments := by
  have column : SortField.consumerGroup.SpelledBy "_consumer-GROUP" := by
    apply SortField.Respelled.mark (.inl rfl)
    repeat
      first
      | exact SortField.Respelled.nil
      | apply SortField.Respelled.letter (by decide)
      | apply SortField.Respelled.mark (by decide)
  have same : oddArguments =
      [attached "page-size" (natText PageSize.hundred.toNat), "--desc", attached "type" "--desc",
       attached "page" (natText (18446744073709551615 : UInt64).toNat),
       attached "sort" "_consumer-GROUP", attached "name" ""] := by
    decide +kernel
  rw [same]
  exact .cons (.pageSize _) (.cons .descending (.cons (.kind _) (.cons (.page _) (.cons (.sort column)
    (.cons (.name _) .nil)))))

/-- A query is read from odd spellings in an odd order, and refused without its field to sort by. -/
theorem parse_spelled_query_odd :
    oddAssignments.Perm oddQuery.assignments
      ∧ List.Forall₂ Assignment.SpelledBy oddAssignments oddArguments
      ∧ Invocation.parse (fun _ => none) ("tasks" :: oddArguments) =
        .ok (({} : GlobalOptions).invocation (.tasks oddQuery))
      ∧ Invocation.parse (fun _ => none)
          ("tasks" :: oddArguments.filter (· ≠ "--sort=_consumer-GROUP")) =
        .error .missingArgument := by
  have order : oddAssignments.Perm oddQuery.assignments := by decide
  obtain ⟨complete, -⟩ := parse_spelled_query order spelledBy_oddArguments
  -- without the column and its argument
  have fewer : (oddAssignments.eraseIdx 4).Perm
      ({ oddQuery with sort := none } : TaskQuery).assignments := by
    decide
  have spelled : List.Forall₂ Assignment.SpelledBy (oddAssignments.eraseIdx 4)
      (oddArguments.filter (· ≠ "--sort=_consumer-GROUP")) := by
    have same : oddArguments.filter (· ≠ "--sort=_consumer-GROUP") = oddArguments.eraseIdx 4 := by
      decide
    rw [same]
    match spelledBy_oddArguments with
    | .cons size (.cons order (.cons kind (.cons page (.cons _ name)))) =>
      exact .cons size (.cons order (.cons kind (.cons page name)))
  obtain ⟨-, incomplete⟩ := parse_spelled_query fewer spelled
  exact ⟨order, spelledBy_oddArguments, complete fun _ => rfl, incomplete rfl rfl⟩

end IngestConsole.CommandLine
