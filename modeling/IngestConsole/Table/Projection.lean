import IngestConsole.Table.Filter
import IngestConsole.Table.Pagination
import IngestConsole.Table.Sort

/-!
# The shown page

What a user controls about the table, and the page that follows from it and the tasks: the tasks
that the filter admits, sorted, cut into pages.
-/

set_option autoImplicit false

namespace IngestConsole.Table

open Json Wire

/-- Everything that a user controls about the table. -/
structure ViewState where
  filter : Filter := {}
  sort : Sorting := {}
  page : Pagination := {}
  deriving DecidableEq

namespace ViewState

/-- The names of the fields on the wire. -/
def fieldNames : List String :=
  ["filter", "sort", "page"]

/-- Reads a view state. -/
def decode? (d : Document) : Option ViewState := do
  let fs ← d.fields? fieldNames
  let filter ← fs.get "filter" Filter.decode? {}
  let sort ← fs.get "sort" Sorting.decode? {}
  let page ← fs.get "page" Pagination.decode? {}
  pure { filter, sort, page }

/-- The members of a written view state. -/
def members (s : ViewState) : List (String × Value) :=
  [("filter", s.filter.encode), ("sort", s.sort.encode), ("page", s.page.encode)]

/-- Writes a view state. -/
def encode (s : ViewState) : Value :=
  .ofMembers s.members

end ViewState

/-- Why a page shows no task. -/
inductive EmptyState
  /-- There are no tasks. -/
  | noTasks
  /-- There are tasks, but the filter admits none. -/
  | noMatches
  deriving DecidableEq, Repr

/-- What is shown in place of an empty page. -/
def EmptyState.message : EmptyState → String
  | noTasks => "暂无任务数据"
  | noMatches => "没有符合筛选条件的任务"

/-- One page of the table. -/
structure Page where
  /-- The tasks on the page. -/
  items : List Task
  /-- How many tasks there are. -/
  total : Nat
  /-- How many tasks the filter admits. -/
  filtered : Nat
  totalPages : Nat
  currentPage : Nat
  pageSize : PageSize
  empty : Option EmptyState
  deriving DecidableEq

/-- Controls for turning pages are worth showing. -/
def Page.hasPager (p : Page) : Bool :=
  p.filtered > 0 && p.totalPages > 1

/-- The admitted tasks in their order. -/
def filterAndSort (tasks : List Task) (filter : Filter) (sort : Sorting) : List Task :=
  sort.apply (tasks.filter filter.admits)

/-- A page number brought between the first page and the last; there is always a first one. -/
def clampPage (n pages : Nat) : Nat :=
  min (max n 1) (max pages 1)

/-- The items of the page with a number. -/
def pageItems {α : Type} (rows : List α) (size : PageSize) (page : Nat) : List α :=
  (rows.drop ((page - 1) * size.toNat)).take size.toNat

/-- The page that a view state selects. -/
def project (tasks : List Task) (s : ViewState) : Page :=
  let rows := filterAndSort tasks s.filter s.sort
  let pages := pageCount rows.length s.page.pageSize
  let current := clampPage s.page.currentPage pages
  { items := pageItems rows s.page.pageSize current
    total := tasks.length
    filtered := rows.length
    totalPages := pages
    currentPage := current
    pageSize := s.page.pageSize
    empty :=
      if tasks.isEmpty then some .noTasks
      else if rows.isEmpty then some .noMatches
      else none }

end IngestConsole.Table
