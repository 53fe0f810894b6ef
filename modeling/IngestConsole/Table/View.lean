import IngestConsole.Table.Projection

/-!
# Table views

A view holds the tasks and what the user selected.  Every operation leaves the selected page on
an existing page.
-/

set_option autoImplicit false

namespace IngestConsole.Table

open Wire

/-- The tasks and what the user selected. -/
structure View where
  tasks : List Task := []
  state : ViewState := {}
  deriving DecidableEq

namespace View

/-- How many tasks the filter admits. -/
def filteredCount (v : View) : Nat :=
  (v.tasks.filter v.state.filter.admits).length

/-- How many pages the admitted tasks fill. -/
def totalPages (v : View) : Nat :=
  pageCount v.filteredCount v.state.page.pageSize

/-- The admitted tasks of all pages, in their order. -/
def filtered (v : View) : List Task :=
  filterAndSort v.tasks v.state.filter v.state.sort

/-- The shown page. -/
def page (v : View) : Page :=
  project v.tasks v.state

/-- The view with another selected page. -/
def withPage (v : View) (n : Nat) : View :=
  { v with state := { v.state with page := { v.state.page with currentPage := n } } }

/-- Selects page `n`, or the nearest page that exists. -/
def setPage (v : View) (n : Nat) : View :=
  v.withPage (clampPage n v.totalPages)

/-- Brings the selected page onto an existing page. -/
def clamp (v : View) : View :=
  v.setPage v.state.page.currentPage

/-- A view without tasks that starts from a view state. -/
def ofState (s : ViewState) : View :=
  clamp { state := s }

/-- Replaces all tasks. -/
def replaceTasks (v : View) (tasks : List Task) : View :=
  clamp { v with tasks }

/-- Changes some parts of the filter. -/
def setFilter (v : View) (p : FilterPatch) : View :=
  clamp { v with state := { v.state with filter := v.state.filter.merge p } }

/-- Removes the filter and goes to the first page. -/
def clearFilters (v : View) : View :=
  withPage { v with state := { v.state with filter := {} } } 1

/-- Selects a column to sort by and goes to the first page. -/
def setSort (v : View) (f : SortField) : View :=
  withPage { v with state := { v.state with sort := v.state.sort.select f } } 1

/-- Selects a page size and goes to the first page. -/
def setPageSize (v : View) (size : PageSize) : View :=
  withPage
    { v with state := { v.state with page := { v.state.page with pageSize := size } } } 1

/-- Goes to the first page. -/
def firstPage (v : View) : View :=
  v.setPage 1

/-- Goes to the last page. -/
def lastPage (v : View) : View :=
  v.setPage v.totalPages

/-- Goes to the next page, if there is one. -/
def nextPage (v : View) : View :=
  v.setPage (v.state.page.currentPage + 1)

/-- Goes to the page before, if there is one. -/
def prevPage (v : View) : View :=
  v.setPage (v.state.page.currentPage - 1)

end View

/-- An operation of a user on a view, or a refresh of its tasks. -/
inductive View.Op
  | replaceTasks (tasks : List Task)
  | setFilter (p : FilterPatch)
  | clearFilters
  | setSort (f : SortField)
  | setPageSize (size : PageSize)
  | setPage (n : Nat)
  | firstPage
  | lastPage
  | nextPage
  | prevPage

/-- The view after an operation. -/
def View.apply (v : View) : View.Op → View
  | .replaceTasks tasks => v.replaceTasks tasks
  | .setFilter p => v.setFilter p
  | .clearFilters => v.clearFilters
  | .setSort f => v.setSort f
  | .setPageSize size => v.setPageSize size
  | .setPage n => v.setPage n
  | .firstPage => v.firstPage
  | .lastPage => v.lastPage
  | .nextPage => v.nextPage
  | .prevPage => v.prevPage

/-- The view after a sequence of operations. -/
def View.run (v : View) (ops : List View.Op) : View :=
  ops.foldl View.apply v

namespace View

/-! Selecting a page changes nothing but the page. -/

variable (v : View) (n : Nat)

/-- Turning to a page keeps the tasks. -/
@[simp] theorem withPage_tasks : (v.withPage n).tasks = v.tasks := rfl

/-- Turning to a page keeps the filter. -/
@[simp] theorem withPage_filter : (v.withPage n).state.filter = v.state.filter := rfl

/-- Turning to a page keeps the sorting. -/
@[simp] theorem withPage_sort : (v.withPage n).state.sort = v.state.sort := rfl

/-- Turning to a page keeps the size of pages. -/
@[simp] theorem withPage_pageSize :
    (v.withPage n).state.page.pageSize = v.state.page.pageSize := rfl

/-- The page that was turned to is the current one. -/
@[simp] theorem withPage_currentPage : (v.withPage n).state.page.currentPage = n := rfl

/-- Turning to a page keeps the number of matching tasks. -/
@[simp] theorem filteredCount_withPage : (v.withPage n).filteredCount = v.filteredCount := rfl

/-- Turning to a page keeps the number of pages. -/
@[simp] theorem totalPages_withPage : (v.withPage n).totalPages = v.totalPages := rfl

/-- Turning to a page keeps the matching tasks and their order. -/
@[simp] theorem filtered_withPage : (v.withPage n).filtered = v.filtered := rfl

/-- Turning to the current page changes nothing. -/
@[simp] theorem withPage_self : v.withPage v.state.page.currentPage = v := rfl

/-- A run of operations makes the first of them and then the others. -/
theorem run_cons (op : Op) (ops : List Op) : v.run (op :: ops) = (v.apply op).run ops := rfl

end View

end IngestConsole.Table
