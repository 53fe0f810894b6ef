import IngestConsole.Table.View
import Mathlib.Order.Lattice
import Mathlib.Order.MinMax

/-!
# Views stay on an existing page

Whatever page a saved view state names, and whatever a user does with a view, the selected page is
one that exists; when no task matches, that is the first page.  The operations come back to an
existing page in different ways: a change of the tasks or of the filter clamps the old page, a
requested page is clamped, and every other change goes to the first page.  Cutting the page
therefore never moves it, and a page without rows is shown only when no task matches.
-/

set_option autoImplicit false

namespace IngestConsole.Table

open Wire

/-! ## Page numbers -/

/-- Pages hold at least one row. -/
theorem PageSize.toNat_pos (size : PageSize) : 0 < size.toNat := by
  cases size <;> decide

/-- A clamped page is at least the first. -/
theorem clampPage_pos (n pages : Nat) : 1 ≤ clampPage n pages := by
  unfold clampPage
  exact le_min (le_max_right _ _) (le_max_right _ _)

/-- A clamped page is at most the last. -/
theorem clampPage_le (n pages : Nat) : clampPage n pages ≤ max pages 1 :=
  min_le_right _ _

/-- A page from 1 on is clamped from above alone. -/
theorem clampPage_eq_min {n : Nat} (pages : Nat) (h : 1 ≤ n) :
    clampPage n pages = min n (max pages 1) := by
  rw [clampPage, max_eq_left h]

/-- A page that exists is not clamped. -/
theorem clampPage_of_le {n pages : Nat} (first : 1 ≤ n) (last : n ≤ max pages 1) :
    clampPage n pages = n := by
  rw [clampPage_eq_min pages first, min_eq_left last]

/-- A clamped page is not clamped again. -/
theorem clampPage_clampPage (n pages : Nat) :
    clampPage (clampPage n pages) pages = clampPage n pages :=
  clampPage_of_le (clampPage_pos n pages) (clampPage_le n pages)

/-- The pages before the last one are full, so every page but the first begins before the rows
end. -/
theorem pageStart_lt {count n : Nat} {size : PageSize} (some_row : 0 < count)
    (last : n ≤ max (pageCount count size) 1) : (n - 1) * size.toNat < count := by
  have pos := size.toNat_pos
  by_cases one : n ≤ 1
  · have zero : n - 1 = 0 := by omega
    rwa [zero, Nat.zero_mul]
  · have le_count : n ≤ pageCount count size := by omega
    have full : n * size.toNat ≤ count + size.toNat - 1 :=
      (Nat.le_div_iff_mul_le pos).1 le_count
    rw [Nat.sub_one_mul]
    omega

/-- A page has rows exactly when it begins before the rows end. -/
theorem pageItems_ne_nil_iff {α : Type} {rows : List α} {size : PageSize} {n : Nat} :
    pageItems rows size n ≠ [] ↔ (n - 1) * size.toNat < rows.length := by
  have pos := size.toNat_pos
  rw [pageItems, ← List.length_pos_iff, List.length_take, List.length_drop]
  omega

/-- Sorting loses none of the matching tasks. -/
theorem length_filterAndSort (tasks : List Task) (filter : Filter) (sort : Sorting) :
    (filterAndSort tasks filter sort).length = (tasks.filter filter.admits).length := by
  unfold filterAndSort Sorting.apply
  cases sort.field with
  | none => rfl
  | some f => exact (List.mergeSort_perm _ _).length_eq

/-- The empty patch changes nothing. -/
theorem Filter.merge_empty (f : Filter) : f.merge {} = f := rfl

namespace View

/-! ## The invariant -/

/-- The selected page exists.  The first page counts as existing when no task matches. -/
structure OnPage (v : View) : Prop where
  first : 1 ≤ v.state.page.currentPage
  last : v.state.page.currentPage ≤ max v.totalPages 1

/-- A requested page is brought onto an existing one. -/
theorem onPage_setPage (v : View) (n : Nat) : (v.setPage n).OnPage :=
  ⟨clampPage_pos n v.totalPages, clampPage_le n v.totalPages⟩

/-- The first page always exists. -/
theorem onPage_withPage_one (v : View) : (v.withPage 1).OnPage :=
  ⟨le_refl 1, le_max_right _ _⟩

/-- A view from a saved state is on a page. -/
theorem onPage_ofState (s : ViewState) : (ofState s).OnPage :=
  onPage_setPage _ _

/-- A new view is on a page. -/
theorem onPage_new : OnPage {} :=
  onPage_withPage_one {}

/-- Every operation ends on an existing page, wherever it starts. -/
theorem onPage_apply (v : View) (op : Op) : (v.apply op).OnPage := by
  cases op with
  | replaceTasks tasks => exact onPage_setPage _ _
  | setFilter p => exact onPage_setPage _ _
  | clearFilters => exact onPage_withPage_one _
  | setSort f => exact onPage_withPage_one _
  | setPageSize size => exact onPage_withPage_one _
  | setPage n => exact onPage_setPage _ _
  | firstPage => exact onPage_setPage _ _
  | lastPage => exact onPage_setPage _ _
  | nextPage => exact onPage_setPage _ _
  | prevPage => exact onPage_setPage _ _

/-- A run that starts on an existing page ends on one. -/
theorem OnPage.run {v : View} (h : v.OnPage) (ops : List Op) : (v.run ops).OnPage := by
  induction ops generalizing v with
  | nil => exact h
  | cons op ops ih =>
    rw [run_cons]
    exact ih (onPage_apply v op)

/-! ## What follows -/

/-- There are as many matching tasks as are counted. -/
theorem length_filtered (v : View) : v.filtered.length = v.filteredCount :=
  length_filterAndSort _ _ _

/-- A page tells the number of matching tasks. -/
theorem page_filtered (v : View) : v.page.filtered = v.filteredCount :=
  v.length_filtered

/-- A page tells the number of pages. -/
theorem page_totalPages (v : View) : v.page.totalPages = v.totalPages :=
  congrArg (pageCount · v.state.page.pageSize) v.length_filtered

/-- The shown page is the selected one, after it was brought onto an existing page. -/
theorem page_currentPage (v : View) :
    v.page.currentPage = clampPage v.state.page.currentPage v.totalPages :=
  congrArg (clampPage v.state.page.currentPage) v.page_totalPages

/-- A page shows its part of the matching tasks. -/
theorem page_items (v : View) :
    v.page.items = pageItems v.filtered v.state.page.pageSize v.page.currentPage := rfl

/-- The page that another selected page gives: only its rows and its number differ. -/
theorem page_withPage (v : View) (n : Nat) :
    (v.withPage n).page =
      { v.page with
        items := pageItems v.filtered v.state.page.pageSize (clampPage n v.totalPages)
        currentPage := clampPage n v.totalPages } := by
  have current := (v.withPage n).page_currentPage
  have items := (v.withPage n).page_items
  rw [current] at items
  calc (v.withPage n).page
      = { v.page with
          items := (v.withPage n).page.items
          currentPage := (v.withPage n).page.currentPage } := rfl
    _ = _ := by
        rw [items, current]
        rfl

/-- Bringing a page onto an existing one before it is cut changes nothing. -/
theorem page_setPage (v : View) (n : Nat) : (v.setPage n).page = (v.withPage n).page := by
  rw [setPage, page_withPage, page_withPage, clampPage_clampPage]

namespace OnPage

variable {v : View}

/-- Bringing an existing page onto an existing page does not move it. -/
theorem clamp_eq (h : v.OnPage) : v.clamp = v := by
  rw [clamp, setPage, clampPage_of_le h.first h.last, withPage_self]

/-- A view on a page shows that page. -/
theorem shown (h : v.OnPage) : v.page.currentPage = v.state.page.currentPage := by
  rw [page_currentPage, clampPage_of_le h.first h.last]

/-- The page is blank only when no task matches. -/
theorem items_ne_nil_iff (h : v.OnPage) : v.page.items ≠ [] ↔ 0 < v.filteredCount := by
  rw [page_items, h.shown, pageItems_ne_nil_iff, length_filtered]
  constructor
  · exact fun start => Nat.zero_lt_of_lt start
  · exact fun some_row => pageStart_lt some_row h.last

/-- Replacing the tasks moves the page no further than to the new last one. -/
theorem replaceTasks_currentPage (h : v.OnPage) (tasks : List Task) :
    (v.replaceTasks tasks).state.page.currentPage =
      min v.state.page.currentPage (max (v.replaceTasks tasks).totalPages 1) :=
  clampPage_eq_min _ h.first

/-- After a patch of the filter the page is the same, or the last if that is smaller. -/
theorem setFilter_currentPage (h : v.OnPage) (p : FilterPatch) :
    (v.setFilter p).state.page.currentPage =
      min v.state.page.currentPage (max (v.setFilter p).totalPages 1) :=
  clampPage_eq_min _ h.first

/-- Bringing the same tasks again changes nothing. -/
theorem replaceTasks_self (h : v.OnPage) : v.replaceTasks v.tasks = v :=
  h.clamp_eq

/-- The empty patch changes nothing in a view on a page. -/
theorem setFilter_empty (h : v.OnPage) : v.setFilter {} = v := by
  rw [setFilter, Filter.merge_empty]
  exact h.clamp_eq

end OnPage

/-- How the pages of a view are counted and selected. -/
structure Paged (v : View) : Prop extends OnPage v where
  /-- The page that is shown is the selected one, with the rows of that page. -/
  shown : v.page.currentPage = v.state.page.currentPage ∧
    v.page.items = pageItems v.filtered v.state.page.pageSize v.state.page.currentPage
  /-- The three ways to count the matching tasks agree. -/
  counted : v.filtered.length = v.filteredCount ∧ v.page.filtered = v.filteredCount
  /-- The two ways to count the pages agree. -/
  pages : v.page.totalPages = v.totalPages
  /-- The page has rows exactly when a task matches. -/
  rows : v.page.items ≠ [] ↔ 0 < v.filteredCount
  /-- New tasks move the page no further than to the new last one. -/
  replaced : ∀ tasks, (v.replaceTasks tasks).state.page.currentPage =
    min v.state.page.currentPage (max (v.replaceTasks tasks).totalPages 1)
  /-- A new filter moves the page no further than to the new last one. -/
  filteredAnew : ∀ p, (v.setFilter p).state.page.currentPage =
    min v.state.page.currentPage (max (v.setFilter p).totalPages 1)
  /-- The same tasks again, or an empty patch, change nothing. -/
  unchanged : v.replaceTasks v.tasks = v ∧ v.setFilter {} = v

/-- On an existing page, pages are counted and selected as they should. -/
theorem OnPage.paged {v : View} (h : v.OnPage) : v.Paged where
  toOnPage := h
  shown := ⟨h.shown, by rw [page_items, h.shown]⟩
  counted := ⟨v.length_filtered, v.page_filtered⟩
  pages := v.page_totalPages
  rows := h.items_ne_nil_iff
  replaced := h.replaceTasks_currentPage
  filteredAnew := h.setFilter_currentPage
  unchanged := ⟨h.replaceTasks_self, h.setFilter_empty⟩

/-- After any run of operations, from a new view or from any saved view state, the selected page
exists and is the one that is shown, the counts of tasks and of pages agree, only a view without
matching tasks has a blank page, and a refresh or a change of the filter keeps the page as far as it
still exists. -/
theorem paged_run (ops : List Op) :
    (run {} ops).Paged ∧ ∀ s : ViewState, (run (ofState s) ops).Paged := by
  refine ⟨?_, fun s => ?_⟩
  · exact (onPage_new.run ops).paged
  · exact ((onPage_ofState s).run ops).paged

end View

end IngestConsole.Table
