import IngestConsole.Proofs.Table.PageInvariant
import Mathlib.Algebra.Group.Nat.Defs
import Mathlib.Order.Bounds.Basic

/-!
# Pages partition the table

The pages of a table are consecutive windows on the arranged tasks.  Put one after another they give
every arranged task once and in its place; all of them are full but the last one, and the last one
has a row if anything matches.  A page number outside the table is first brought onto an existing
page, which also keeps the offset of a window within the number of tasks.
-/

set_option autoImplicit false

namespace IngestConsole.Table

open Wire

/-! ## Windows -/

/-- The first windows of a size hold the first rows. -/
theorem flatMap_windows {α : Type} (rows : List α) (size n : Nat) :
    (List.range n).flatMap (fun i => (rows.drop (i * size)).take size) = rows.take (n * size) := by
  induction n with
  | zero => simp
  | succ n ih =>
    rw [List.range_succ, List.flatMap_append, ih, List.flatMap_singleton, Nat.succ_mul,
      List.take_add]

/-- A page holds as many rows as fit, or what is left. -/
theorem length_pageItems {α : Type} (rows : List α) (size : PageSize) (n : Nat) :
    (pageItems rows size n).length = min size.toNat (rows.length - (n - 1) * size.toNat) := by
  rw [pageItems, List.length_take, List.length_drop]

/-- A row of a page is found behind those of the pages before. -/
theorem getElem?_pageItems {α : Type} (rows : List α) (size : PageSize) (n i : Nat) :
    (pageItems rows size n)[i]? =
      if i < size.toNat then rows[(n - 1) * size.toNat + i]? else none := by
  rw [pageItems, List.getElem?_take, List.getElem?_drop]

/-- Some pages hold all rows exactly if there are as many as are counted. -/
theorem pageCount_le_iff {count n : Nat} {size : PageSize} :
    pageCount count size ≤ n ↔ count ≤ n * size.toNat := by
  have pos := size.toNat_pos
  rw [pageCount, ← Nat.lt_succ_iff, Nat.div_lt_iff_lt_mul pos, Nat.succ_mul]
  omega

/-- The counted pages are the fewest that hold all rows. -/
theorem isLeast_pageCount (count : Nat) (size : PageSize) :
    IsLeast { n | count ≤ n * size.toNat } (pageCount count size) :=
  ⟨pageCount_le_iff.1 (Nat.le_refl _), fun _ enough => pageCount_le_iff.2 enough⟩

/-- A page that is not the last ends within the rows. -/
theorem pageEnd_le {count n : Nat} {size : PageSize}
    (earlier : n < max (pageCount count size) 1) : n * size.toNat ≤ count := by
  rcases Nat.eq_zero_or_pos n with rfl | positive
  · simp
  · have not_enough : ¬ pageCount count size ≤ n := by omega
    rw [pageCount_le_iff] at not_enough
    omega

/-! ## The pages of a table -/

/-- The view state with another selected page. -/
def ViewState.withPage (s : ViewState) (n : Nat) : ViewState :=
  { s with page := { s.page with currentPage := n } }

/-- The arranged tasks of all pages. -/
def ViewState.rows (s : ViewState) (tasks : List Task) : List Task :=
  filterAndSort tasks s.filter s.sort

/-- The number of pages is that of the rows. -/
theorem totalPages_project (tasks : List Task) (s : ViewState) :
    (project tasks s).totalPages = pageCount (s.rows tasks).length s.page.pageSize := rfl

/-- What is shown is the part of the rows on the current page. -/
theorem items_project (tasks : List Task) (s : ViewState) :
    (project tasks s).items =
      pageItems (s.rows tasks) s.page.pageSize (project tasks s).currentPage := rfl

/-- There are no more rows than tasks. -/
theorem length_rows_le (tasks : List Task) (s : ViewState) :
    (s.rows tasks).length ≤ tasks.length := by
  rw [ViewState.rows, length_filterAndSort]
  exact List.length_filter_le _ _

/-- There are no rows exactly when no task matches. -/
theorem rows_eq_nil_iff (tasks : List Task) (s : ViewState) :
    s.rows tasks = [] ↔ ∀ t ∈ tasks, s.filter.admits t = false := by
  rw [← List.length_eq_zero_iff, ViewState.rows, length_filterAndSort, List.length_eq_zero_iff,
    List.filter_eq_nil_iff]
  simp only [Bool.not_eq_true]

/-- On a page that exists its part of the rows is shown. -/
theorem items_withPage (tasks : List Task) (s : ViewState) {n : Nat} (first : 1 ≤ n)
    (last : n ≤ max (project tasks s).totalPages 1) :
    (project tasks (s.withPage n)).items = pageItems (s.rows tasks) s.page.pageSize n := by
  have shown : (project tasks (s.withPage n)).currentPage = n := clampPage_of_le first last
  rw [items_project, shown]
  rfl

/-- The shown page begins at a row of the table, or at its end if nothing matches. -/
theorem pageStart_le (tasks : List Task) (s : ViewState) :
    ((project tasks s).currentPage - 1) * s.page.pageSize.toNat ≤ tasks.length := by
  have last : (project tasks s).currentPage ≤ max (project tasks s).totalPages 1 :=
    clampPage_le _ _
  refine Nat.le_trans (pageEnd_le ?_) (length_rows_le tasks s)
  rw [totalPages_project] at last
  omega

/-- On machine words of 64 bits the beginning of the shown page is computed without wrapping
around, as long as the number of tasks is such a word. -/
theorem pageStart_word (tasks : List Task) (s : ViewState) (fits : tasks.length < 2 ^ 64) :
    ((UInt64.ofNat (project tasks s).currentPage - 1)
        * UInt64.ofNat s.page.pageSize.toNat).toNat =
      ((project tasks s).currentPage - 1) * s.page.pageSize.toNat := by
  have start := pageStart_le tasks s
  have first : 1 ≤ (project tasks s).currentPage := clampPage_pos _ _
  generalize (project tasks s).currentPage = p at start first
  have word : UInt64.ofNat p - 1 = UInt64.ofNat (p - 1) := by
    rw [UInt64.ofNat_sub first]
    rfl
  rw [word, ← UInt64.ofNat_mul, UInt64.toNat_ofNat_of_lt' (Nat.lt_of_le_of_lt start fits)]

/-- How the pages of a table relate to the arranged tasks. -/
structure Partitioned (tasks : List Task) (s : ViewState) : Prop where
  /-- A selected page outside the table is brought to the nearest existing one. -/
  current : (project tasks s).currentPage =
    min (max s.page.currentPage 1) (max (project tasks s).totalPages 1)
  /-- The page begins within the tasks, also when this is computed in 64 bits. -/
  start : 1 ≤ (project tasks s).currentPage ∧
    ((project tasks s).currentPage - 1) * s.page.pageSize.toNat ≤ tasks.length ∧
    (tasks.length < 2 ^ 64 →
      ((UInt64.ofNat (project tasks s).currentPage - 1)
          * UInt64.ofNat s.page.pageSize.toNat).toNat =
        ((project tasks s).currentPage - 1) * s.page.pageSize.toNat)
  /-- The page shows the arranged tasks from its beginning on, as many as its size. -/
  window : ∀ i, (project tasks s).items[i]? =
    if i < s.page.pageSize.toNat then
      (s.rows tasks)[((project tasks s).currentPage - 1) * s.page.pageSize.toNat + i]?
    else none
  /-- All pages one after another give the arranged tasks. -/
  concatenated : (List.range (max (project tasks s).totalPages 1)).flatMap
    (fun i => (project tasks (s.withPage (i + 1))).items) = s.rows tasks
  /-- A page before the last one is full. -/
  full : ∀ n, 1 ≤ n → n < max (project tasks s).totalPages 1 →
    (project tasks (s.withPage n)).items.length = s.page.pageSize.toNat
  /-- The last page has a row if anything matches. -/
  last : s.rows tasks ≠ [] →
    1 ≤ (project tasks (s.withPage (project tasks s).totalPages)).items.length ∧
    (project tasks (s.withPage (project tasks s).totalPages)).items.length ≤
      s.page.pageSize.toNat
  /-- There are no more pages than hold the matching tasks. -/
  pages : IsLeast { n | (project tasks s).filtered ≤ n * s.page.pageSize.toNat }
    (project tasks s).totalPages
  /-- All tasks and the matching ones are counted. -/
  counted : (project tasks s).total = tasks.length ∧
    (project tasks s).filtered = (tasks.filter s.filter.admits).length
  noTasks : (project tasks s).empty = some .noTasks ↔ tasks = []
  noMatches : (project tasks s).empty = some .noMatches ↔
    tasks ≠ [] ∧ ∀ t ∈ tasks, s.filter.admits t = false
  /-- Nothing is shown in place of the page exactly if it has a row. -/
  shown : (project tasks s).empty = none ↔ (project tasks s).items ≠ []

/-! ## What the parts of a page say -/

/-- An empty table tells whether there are no tasks or no matches. -/
theorem empty_project (tasks : List Task) (s : ViewState) :
    (project tasks s).empty =
      if tasks = [] then some .noTasks
      else if s.rows tasks = [] then some .noMatches else none := by
  rw [project, ViewState.rows]
  simp only [List.isEmpty_iff]

/-- Where there are rows there are tasks. -/
theorem ne_nil_of_rows_ne_nil {tasks : List Task} {s : ViewState} (some_row : s.rows tasks ≠ []) :
    tasks ≠ [] := by
  rintro rfl
  exact some_row ((rows_eq_nil_iff [] s).2 (by simp))

/-- The shown page has a row as soon as anything matches. -/
theorem items_project_ne_nil_iff (tasks : List Task) (s : ViewState) :
    (project tasks s).items ≠ [] ↔ s.rows tasks ≠ [] := by
  rw [items_project, pageItems_ne_nil_iff, ← List.length_pos_iff]
  constructor
  · exact fun start => Nat.zero_lt_of_lt start
  · exact fun some_row => pageStart_lt some_row (clampPage_le _ _)

/-- Every page but the last is full. -/
theorem length_items_of_lt (tasks : List Task) (s : ViewState) {n : Nat} (first : 1 ≤ n)
    (earlier : n < max (project tasks s).totalPages 1) :
    (project tasks (s.withPage n)).items.length = s.page.pageSize.toNat := by
  have ends : n * s.page.pageSize.toNat ≤ (s.rows tasks).length := pageEnd_le earlier
  rw [items_withPage tasks s first (Nat.le_of_lt earlier), length_pageItems, Nat.sub_one_mul]
  have size_le : s.page.pageSize.toNat ≤ n * s.page.pageSize.toNat :=
    Nat.le_mul_of_pos_left _ first
  omega

/-- All pages in sequence are the rows. -/
theorem flatMap_items (tasks : List Task) (s : ViewState) :
    (List.range (max (project tasks s).totalPages 1)).flatMap
      (fun i => (project tasks (s.withPage (i + 1))).items) = s.rows tasks := by
  have window : ∀ i ∈ List.range (max (project tasks s).totalPages 1),
      (project tasks (s.withPage (i + 1))).items =
        ((s.rows tasks).drop (i * s.page.pageSize.toNat)).take s.page.pageSize.toNat :=
    fun i mem => items_withPage tasks s (Nat.succ_pos i) (List.mem_range.1 mem)
  have enough : (s.rows tasks).length ≤
      max (project tasks s).totalPages 1 * s.page.pageSize.toNat :=
    pageCount_le_iff.1 (Nat.le_max_left _ _)
  calc
    _ = (List.range (max (project tasks s).totalPages 1)).flatMap
          (fun i => ((s.rows tasks).drop (i * s.page.pageSize.toNat)).take
            s.page.pageSize.toNat) := by
        rw [List.flatMap_def, List.map_congr_left window, ← List.flatMap_def]
    _ = (s.rows tasks).take (max (project tasks s).totalPages 1 * s.page.pageSize.toNat) :=
        flatMap_windows _ _ _
    _ = s.rows tasks := List.take_of_length_le enough

/-- The pages partition the arranged tasks, whatever the tasks are and whatever page is
selected. -/
theorem project_partitioned (tasks : List Task) (s : ViewState) : Partitioned tasks s where
  current := rfl
  start := ⟨clampPage_pos _ _, pageStart_le tasks s, pageStart_word tasks s⟩
  window i := by rw [items_project, getElem?_pageItems]
  concatenated := flatMap_items tasks s
  full _ := length_items_of_lt tasks s
  last some_row := by
    have some_page : (s.withPage (project tasks s).totalPages).rows tasks ≠ [] := some_row
    refine ⟨List.length_pos_iff.2 ((items_project_ne_nil_iff _ _).2 some_page), ?_⟩
    rw [items_project, length_pageItems]
    exact Nat.min_le_left _ _
  pages := isLeast_pageCount _ _
  counted := ⟨rfl, length_filterAndSort _ _ _⟩
  noTasks := by
    rw [empty_project]
    split <;> simp_all
  noMatches := by
    rw [empty_project, ← rows_eq_nil_iff]
    split <;> simp_all
  shown := by
    rw [empty_project, items_project_ne_nil_iff]
    split
    next no_tasks => simpa using fun some_row => ne_nil_of_rows_ne_nil some_row no_tasks
    next => simp

end IngestConsole.Table
