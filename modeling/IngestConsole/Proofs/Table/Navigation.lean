import IngestConsole.Proofs.Table.PagePartition

/-!
# Turning pages

Whichever page is asked for, the nearest one that exists is shown, and steps forward and back end at
the last and at the first page.  Turning pages changes nothing but the page.  Someone who starts on
the first page and goes on until the page stays the same comes to an end, and has seen every matching
task once and in its place.
-/

set_option autoImplicit false

namespace IngestConsole.Table

open Wire

/-- Whether an operation turns pages. -/
def View.Op.turnsPages : View.Op → Bool
  | .setPage _ | .firstPage | .lastPage | .nextPage | .prevPage => true
  | _ => false

namespace View

/-! ## The table stays -/

/-- The views differ in nothing but the page. -/
structure SameTable (v w : View) : Prop where
  tasks : w.tasks = v.tasks
  filter : w.state.filter = v.state.filter
  sort : w.state.sort = v.state.sort
  pageSize : w.state.page.pageSize = v.state.page.pageSize

/-- Turning to a page shows the same table. -/
theorem sameTable_withPage (v : View) (n : Nat) : SameTable v (v.withPage n) where
  tasks := v.withPage_tasks n
  filter := v.withPage_filter n
  sort := v.withPage_sort n
  pageSize := v.withPage_pageSize n

/-- An operation that turns pages turns to some page. -/
theorem apply_of_turnsPages {op : Op} (turns : op.turnsPages = true) (v : View) :
    ∃ n, v.apply op = v.withPage n := by
  cases op with
  | setPage n => exact ⟨_, rfl⟩
  | firstPage => exact ⟨_, rfl⟩
  | lastPage => exact ⟨_, rfl⟩
  | nextPage => exact ⟨_, rfl⟩
  | prevPage => exact ⟨_, rfl⟩
  | _ => cases turns

/-- Operations that turn pages end at another page of the same view. -/
theorem run_of_turnsPages {ops : List Op} (turn : ∀ op ∈ ops, op.turnsPages = true) (v : View) :
    ∃ n, v.run ops = v.withPage n := by
  induction ops generalizing v with
  | nil => exact ⟨_, v.withPage_self.symm⟩
  | cons op ops ih =>
    obtain ⟨turns, later⟩ := List.forall_mem_cons.1 turn
    obtain ⟨m, turned⟩ := apply_of_turnsPages turns v
    rw [run_cons, turned]
    exact ih later (v.withPage m)

/-! ## Steps -/

/-- The first page is the page 1. -/
theorem firstPage_eq (v : View) : v.firstPage = v.withPage 1 := by
  rw [firstPage, setPage, clampPage_of_le (Nat.le_refl 1) (Nat.le_max_right _ _)]

/-- The next page is one further, up to the last. -/
theorem nextPage_eq (v : View) :
    v.nextPage = v.withPage (min (v.state.page.currentPage + 1) (max v.totalPages 1)) := by
  rw [nextPage, setPage, clampPage_eq_min _ (Nat.succ_pos _)]

/-- The last page is the number of pages, or 1 if there are none. -/
theorem lastPage_currentPage (v : View) :
    v.lastPage.state.page.currentPage = max v.totalPages 1 := by
  show clampPage v.totalPages v.totalPages = _
  rw [clampPage, Nat.min_self]

/-- Steps forward end at the last page. -/
theorem OnPage.run_nextPage {v : View} (h : v.OnPage) (k : Nat) :
    v.run (List.replicate k .nextPage) =
      v.withPage (min (v.state.page.currentPage + k) (max v.totalPages 1)) := by
  induction k generalizing v with
  | zero => exact congrArg v.withPage (Nat.min_eq_left h.last).symm
  | succ k ih =>
    have onward : v.nextPage.OnPage := onPage_setPage v _
    rw [List.replicate_succ, run_cons, apply, ih onward, nextPage_eq]
    refine congrArg v.withPage ?_
    rw [totalPages_withPage, withPage_currentPage]
    omega

/-- Steps back end at the first page. -/
theorem OnPage.run_prevPage {v : View} (h : v.OnPage) (k : Nat) :
    v.run (List.replicate k .prevPage) = v.withPage (max (v.state.page.currentPage - k) 1) := by
  induction k generalizing v with
  | zero => exact congrArg v.withPage (Nat.max_eq_left h.first).symm
  | succ k ih =>
    have last := h.last
    have back : v.prevPage.OnPage := onPage_setPage v _
    rw [List.replicate_succ, run_cons, apply, ih back, prevPage, setPage]
    refine congrArg v.withPage ?_
    rw [withPage_currentPage, clampPage]
    omega

/-! ## A walk through all pages -/

/-- Whoever goes on from a view to the next page, until the number of the page stays the same, sees
these views. -/
inductive Walk : View → List View → Prop
  | stop {v : View} (stays : v.nextPage.state.page.currentPage = v.state.page.currentPage) :
    Walk v [v]
  | goOn {v : View} {seen : List View}
    (moves : v.nextPage.state.page.currentPage ≠ v.state.page.currentPage)
    (later : Walk v.nextPage seen) : Walk v (v :: seen)

/-- There is one way to go on. -/
theorem Walk.unique {v : View} {seen seen' : List View} (walk : Walk v seen)
    (walk' : Walk v seen') : seen = seen' := by
  induction walk generalizing seen' with
  | stop stays =>
    cases walk' with
    | stop _ => rfl
    | goOn moves _ => exact absurd stays moves
  | goOn moves _ ih =>
    cases walk' with
    | stop stays => exact absurd stays moves
    | goOn _ later => exact congrArg _ (ih later)

/-- From an existing page on, the walk sees each page up to the last one. -/
theorem walk_withPage (v : View) {n left : Nat} (rest : n + left = max v.totalPages 1) :
    Walk (v.withPage n) ((List.range' n (left + 1)).map v.withPage) := by
  induction left generalizing n with
  | zero =>
    refine .stop ?_
    rw [nextPage_eq, withPage_currentPage, withPage_currentPage, totalPages_withPage]
    omega
  | succ left ih =>
    have next : (v.withPage n).nextPage = v.withPage (n + 1) := by
      rw [nextPage_eq, withPage_currentPage, totalPages_withPage, Nat.min_eq_left (by omega)]
      rfl
    refine .goOn ?_ ?_
    · rw [next, withPage_currentPage, withPage_currentPage]
      omega
    · rw [next]
      exact ih (by omega)

/-- From the first page the walk goes through all pages in order. -/
theorem walk_firstPage (v : View) :
    Walk v.firstPage ((List.range' 1 (max v.totalPages 1)).map v.withPage) := by
  have all : 1 + (max v.totalPages 1 - 1) = max v.totalPages 1 := by omega
  have walk := v.walk_withPage all
  rwa [Nat.add_comm, all, ← firstPage_eq] at walk

/-- The pages of the walk, put one after another, give the matching tasks. -/
theorem flatMap_walk (v : View) :
    ((List.range' 1 (max v.totalPages 1)).map v.withPage).flatMap (·.page.items) =
      v.filtered := by
  have pages : v.page.totalPages = v.totalPages := v.page_totalPages
  rw [List.flatMap_map, List.range'_eq_map_range, List.flatMap_map, ← pages]
  simp only [Nat.add_comm 1]
  exact flatMap_items v.tasks v.state

/-! ## The pager -/

/-- What the controls for turning pages do. -/
structure Navigable (v : View) : Prop where
  /-- The nearest existing page to the one that is asked for is selected. -/
  requested : ∀ n,
    (v.setPage n).state.page.currentPage = min (max n 1) (max v.totalPages 1)
  first : v.firstPage.state.page.currentPage = 1
  last : v.lastPage.state.page.currentPage = max v.totalPages 1
  /-- Steps forward end at the last page. -/
  forward : ∀ k, (v.run (List.replicate k .nextPage)).state.page.currentPage =
    min (v.state.page.currentPage + k) (max v.totalPages 1)
  /-- Steps back end at the first page. -/
  back : ∀ k, (v.run (List.replicate k .prevPage)).state.page.currentPage =
    max (v.state.page.currentPage - k) 1
  /-- However the pages are turned, the table stays. -/
  unchanged : ∀ ops, (∀ op ∈ ops, op.turnsPages = true) → SameTable v (v.run ops)
  /-- The walk from the first page on comes to an end, in one way, and shows the matching tasks. -/
  walk : ∃ seen, Walk v.firstPage seen ∧ (∀ seen', Walk v.firstPage seen' → seen' = seen) ∧
    seen.flatMap (·.page.items) = v.filtered

/-- A view on a page can be walked through. -/
theorem OnPage.navigable {v : View} (h : v.OnPage) : v.Navigable where
  requested _ := rfl
  first := by rw [firstPage_eq, withPage_currentPage]
  last := v.lastPage_currentPage
  forward k := by rw [h.run_nextPage, withPage_currentPage]
  back k := by rw [h.run_prevPage, withPage_currentPage]
  unchanged ops turn := by
    obtain ⟨n, turned⟩ := run_of_turnsPages turn v
    rw [turned]
    exact v.sameTable_withPage n
  walk := ⟨_, v.walk_firstPage, fun _ walk => walk.unique v.walk_firstPage, v.flatMap_walk⟩

/-- After any run of operations, from a new view or from any saved view state, the pager moves between
the first page and the last, leaves the table as it is, and leads through all of it. -/
theorem navigable_run (ops : List Op) :
    (run {} ops).Navigable ∧ ∀ s : ViewState, (run (ofState s) ops).Navigable := by
  refine ⟨?_, fun s => ?_⟩
  · exact (onPage_new.run ops).navigable
  · exact ((onPage_ofState s).run ops).navigable

end View

end IngestConsole.Table
