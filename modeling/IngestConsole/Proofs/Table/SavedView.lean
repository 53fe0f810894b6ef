import IngestConsole.Proofs.Table.PageInvariant
import IngestConsole.Proofs.Wire.RoundTrip

/-!
# Saved views

What a user selected is written, read again and put into a new view, which then receives the tasks.
Filter, sorting and page size come back with it, and so do all counts.  The selected page does not:
a view without tasks has a first page only, so a new view is brought there before any task arrives,
and tasks that arrive later do not move it.  Nothing is lost in what was written, though: cutting
the page straight from what was read gives the page that was shown.
-/

set_option autoImplicit false

namespace IngestConsole.Table

open Wire

/-! ## What is written -/

/-- A pagination as it is written: its page number has at most 64 bits. -/
def Pagination.written (p : Pagination) : Pagination :=
  { p with currentPage := min p.currentPage 0xffffffffffffffff }

/-- A page number of a word is written as it is. -/
theorem Pagination.written_of_lt {p : Pagination} (fits : p.currentPage < 2 ^ 64) :
    p.written = p := by
  have below : min p.currentPage 0xffffffffffffffff = p.currentPage := by omega
  simp only [Pagination.written, below]

/-- What is written is encoded as what it was written from. -/
theorem Pagination.encode_written (p : Pagination) : p.written.encode = p.encode := by
  simp only [Pagination.encode, Pagination.members, Pagination.written, min_assoc, min_self]

namespace ViewState

/-- A view state as it is written. -/
def written (s : ViewState) : ViewState :=
  { s with page := s.page.written }

/-- A state that is written is encoded as what it was written from. -/
theorem encode_written (s : ViewState) : s.written.encode = s.encode := by
  simp only [encode, members, written, Pagination.encode_written]

/-- What was written is read again, whatever page is selected. -/
theorem decode?_encode_written (s : ViewState) :
    ViewState.decode? s.encode.document = some s.written := by
  have fits : s.written.page.currentPage < 2 ^ 64 := by
    show min s.page.currentPage 0xffffffffffffffff < 2 ^ 64
    omega
  rw [← encode_written]
  exact decode?_encode fits

end ViewState

/-! ## A new view with what was read -/

/-- Without rows there are no pages. -/
theorem pageCount_zero (size : PageSize) : pageCount 0 size = 0 := by
  cases size <;> rfl

/-- The first page is not clamped. -/
theorem clampPage_one (pages : Nat) : clampPage 1 pages = 1 := by
  apply clampPage_of_le
  · exact Nat.le_refl 1
  · exact Nat.le_max_right pages 1

/-- Without pages the first page is shown. -/
theorem clampPage_zero_pages (n : Nat) : clampPage n 0 = 1 := by
  have first := clampPage_pos n 0
  have last := clampPage_le n 0
  omega

/-- There are no more pages than rows. -/
theorem pageCount_le (count : Nat) (size : PageSize) : pageCount count size ≤ count := by
  unfold pageCount
  cases size
  all_goals
    simp only [PageSize.toNat]
    omega

namespace View

/-- A view without tasks is on its first page, whatever page was saved. -/
theorem ofState_eq (s : ViewState) : ofState s = withPage { state := s } 1 := by
  have no_pages : totalPages { state := s } = 0 := pageCount_zero s.page.pageSize
  rw [ofState, clamp, setPage, no_pages, clampPage_zero_pages]

/-- Tasks that arrive leave a view on its first page. -/
theorem replaceTasks_withPage_one (v : View) (tasks : List Task) :
    (v.withPage 1).replaceTasks tasks = withPage { v with tasks } 1 := by
  rw [replaceTasks, clamp, setPage]
  have stays := clampPage_one (totalPages { v.withPage 1 with tasks })
  simp only [withPage_currentPage]
  rw [stays]
  rfl

/-- A view from a saved state shows the first page of the tasks that it is brought. -/
theorem ofState_replaceTasks (s : ViewState) (tasks : List Task) :
    (ofState s).replaceTasks tasks = withPage { tasks, state := s } 1 := by
  rw [ofState_eq, replaceTasks_withPage_one]

/-- What a view is restored to: its state is written and read again, a new view starts from it and
receives the same tasks. -/
def restored? (v : View) : Option View :=
  (ViewState.decode? v.state.encode.document).map fun s => (ofState s).replaceTasks v.tasks

/-- A view is restored on its first page. -/
theorem restored?_eq (v : View) : v.restored? = some (v.withPage 1) := by
  rw [restored?, ViewState.decode?_encode_written, Option.map_some, ofState_replaceTasks]
  rfl

/-- A view on its first page is the only one that turning there leaves the same. -/
theorem withPage_one_eq_iff (v : View) : v.withPage 1 = v ↔ v.state.page.currentPage = 1 := by
  constructor
  · intro same
    rw [← same, withPage_currentPage]
  · intro first
    rw [← first, withPage_self]

/-- The selected page of a view that a user could reach is no larger than the number of tasks. -/
theorem OnPage.currentPage_le {v : View} (h : v.OnPage) :
    v.state.page.currentPage ≤ max v.tasks.length 1 := by
  have last := h.last
  have pages : v.totalPages ≤ v.filteredCount := pageCount_le _ _
  have matching : v.filteredCount ≤ v.tasks.length := List.length_filter_le _ _
  omega

/-- A view that a user can reach is restored on its first page: with the same tasks, filter, sorting
and page size, with the same counts, and with the first rows of the same arranged tasks.  It is the
view itself exactly if that was on its first page.  What was written of it is read again whole, and
gives the page that was shown when the page is cut straight from it. -/
theorem restored_run (ops : List Op) :
    let v := run {} ops
    v.restored? = some (v.withPage 1) ∧
      (v.restored? = some v ↔ v.state.page.currentPage = 1) ∧
      (v.withPage 1).page =
        { v.page with
          items := pageItems v.filtered v.state.page.pageSize 1
          currentPage := 1 } ∧
      (v.tasks.length < 2 ^ 64 → ∃ s, ViewState.decode? v.state.encode.document = some s ∧
        s = v.state ∧ project v.tasks s = v.page) := by
  intro v
  have reached : v.OnPage := onPage_new.run ops
  refine ⟨v.restored?_eq, ?_, ?_, ?_⟩
  · rw [restored?_eq, Option.some.injEq, withPage_one_eq_iff]
  · rw [page_withPage, clampPage_one]
  · intro fits
    have whole : v.state.written = v.state := by
      have bound := reached.currentPage_le
      have small : v.state.page.currentPage < 2 ^ 64 := by omega
      rw [ViewState.written, Pagination.written_of_lt small]
    refine ⟨v.state, ?_, rfl, rfl⟩
    rw [ViewState.decode?_encode_written, whole]

/-- A view of eleven tasks on its second page, with one row, is restored on its first page. -/
theorem restored_secondPage :
    let v := run {} [.replaceTasks (List.replicate 11 {}), .setPageSize .ten, .nextPage]
    v.state.page.currentPage = 2 ∧ v.page.items.length = 1 ∧
      ∃ w, v.restored? = some w ∧ w.tasks = v.tasks ∧ w.state.page.currentPage = 1 ∧
        w.page.items.length = 10 ∧ w.state ≠ v.state ∧ w.page ≠ v.page := by
  intro v
  refine ⟨by decide +kernel, by decide +kernel, v.withPage 1, v.restored?_eq, rfl, rfl, ?_, ?_, ?_⟩
  · decide +kernel
  · decide +kernel
  · decide +kernel

/-- What was written of that view gives its second page, for a list of eleven is short enough. -/
theorem restored_run_secondPage :
    let v := run {} [.replaceTasks (List.replicate 11 {}), .setPageSize .ten, .nextPage]
    ∃ s, ViewState.decode? v.state.encode.document = some s ∧ s = v.state ∧
      project v.tasks s = v.page := by
  intro v
  have few : v.tasks.length < 2 ^ 64 := by decide +kernel
  exact (restored_run _).2.2.2 few

end View

end IngestConsole.Table
