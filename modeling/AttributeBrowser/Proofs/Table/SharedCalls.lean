import Mathlib.Data.List.Induction
import AttributeBrowser.Proofs.Table.Calls
import AttributeBrowser.Proofs.Table.SharedViews

/-!
# Views that share their row numbers: who asks the sources

Each view asks its source on its own behalf. A request touches one view at most
(`onView`), and it wants places of that view's source alone (`wants`); so the calls of a
view are told by the requests made to it since it was opened, whatever was asked of the
other views on the same source in between.
-/

namespace AttributeBrowser

namespace SharedViews

/-! ## What a request does to one view -/

/-- The request asks a view for cells of its source. -/
def Request.AsksView (view : Nat) : Request → Prop
  | .cell asked _ column => asked = view ∧ column ≠ 0
  | .dump asked => asked = view
  | _ => False

/-- The places of its source that a request wants of a view. A dump goes through the
table row by row, up to the first cell that cannot be read. -/
def Request.wants (source : Source) (view : Nat) : Request → List (Nat × Nat)
  | .cell asked row column => if asked = view then source.read [(row, column)] else []
  | .dump asked =>
    if asked = view ∧ source.columnCount + 1 < Size.limit then
      source.read ((List.range source.rowCount).flatMap fun row =>
        (List.range (source.columnCount + 1)).map (row, ·))
    else []
  | _ => []

/-- The table of a view after a request. -/
def Request.onView (numbers : RowNumbers) (view : Nat) (table : TableView) : Request → TableView
  | .cell asked row column => if asked = view then (table.cell numbers row column).2 else table
  | .dump asked =>
    if asked = view ∧ table.source.columnCount + 1 < Size.limit then
      (table.rowTexts numbers (table.source.columnCount + 1) (List.range table.source.rowCount)).2
    else table
  | _ => table

variable {sources : Array Source} {shared : SharedViews} {view number : Nat} {table : TableView}
  {source : Source} {wanted : List (Nat × Nat)}

theorem views_put_self (hv : shared.views[view]? = some (number, table)) {α : Type}
    (result : Except Fault α × TableView) (answer : α → Nat → Answer) :
    (shared.put view number result answer).2.views[view]? = some (number, result.2) := by
  have hlt : view < shared.views.size := (Array.getElem?_eq_some_iff.mp hv).1
  simp [SharedViews.put, hlt]

theorem views_put_of_ne {asked : Nat} (hne : asked ≠ view) (other : Nat) {α : Type}
    (result : Except Fault α × TableView) (answer : α → Nat → Answer) :
    (shared.put asked other result answer).2.views[view]? = shared.views[view]? := by
  simp [SharedViews.put, hne]

/-- **A request changes a view as if the view were alone.** -/
theorem views_step (hv : shared.views[view]? = some (number, table)) (request : Request) :
    (shared.step request).2.views[view]? =
      some (number, request.onView shared.numbers view table) := by
  cases request with
  | openView opened =>
    simp only [SharedViews.step, Request.onView]
    split
    · exact hv
    · split
      · exact hv
      · have hlt : view < shared.views.size := (Array.getElem?_eq_some_iff.mp hv).1
        rw [Array.getElem?_push, if_neg (by omega)]
        exact hv
  | grow rows =>
    simp only [SharedViews.step, Request.onView]
    split <;> exact hv
  | cell asked row column =>
    simp only [SharedViews.step, Request.onView]
    by_cases hview : asked = view
    · subst hview
      rw [if_pos rfl, hv]
      exact views_put_self hv _ _
    · rw [if_neg hview]
      split
      · exact hv
      · rw [views_put_of_ne hview]
        exact hv
  | dump asked =>
    simp only [SharedViews.step, Request.onView]
    by_cases hview : asked = view
    · subst hview
      simp only [hv, TableView.columnCount, TableView.rowCount, Size.add, true_and]
      by_cases hcolumns : table.source.columnCount + 1 < Size.limit
      · rw [if_pos hcolumns, if_pos hcolumns]
        exact views_put_self hv _ _
      · rw [if_neg hcolumns, if_neg hcolumns]
        exact hv
    · rw [if_neg (fun hboth => hview hboth.1)]
      split
      · exact hv
      · split
        · exact hv
        · rw [views_put_of_ne hview]
          exact hv
  | link asked row column =>
    simp only [SharedViews.step, Request.onView]
    split
    · exact hv
    · split <;> exact hv
  | calls asked =>
    simp only [SharedViews.step, Request.onView]
    split <;> exact hv
  | numbers => exact hv
  | size asked => simpa only [SharedViews.step, Request.onView, step_ask] using hv
  | name asked column => simpa only [SharedViews.step, Request.onView, step_ask] using hv
  | type asked column => simpa only [SharedViews.step, Request.onView, step_ask] using hv
  | width asked column => simpa only [SharedViews.step, Request.onView, step_ask] using hv
  | editable asked row column => simpa only [SharedViews.step, Request.onView, step_ask] using hv

theorem Request.onView_of_not_asksView {request : Request} (h : ¬request.AsksView view)
    (numbers : RowNumbers) (table : TableView) : request.onView numbers view table = table := by
  cases request with
  | cell asked row column =>
    simp only [Request.onView]
    split
    · -- the view is asked for a row number
      rename_i hview
      cases column with
      | zero => rfl
      | succ column => exact absurd ⟨hview, Nat.succ_ne_zero column⟩ h
    · rfl
  | dump asked => exact if_neg fun hboth => h hboth.1
  | _ => rfl

/-! ## Calls -/

/-- The calls of a view follow what the request wants of it. -/
theorem Counts.onView (hc : table.Counts wanted) (hf : table.Faithful) (numbers : RowNumbers)
    (view : Nat) (request : Request) :
    (request.onView numbers view table).Counts (wanted ++ request.wants table.source view) := by
  cases request with
  | cell asked row column =>
    simp only [Request.onView, Request.wants]
    split
    · exact hc.cell hf numbers row column
    · simpa using hc
  | dump asked =>
    simp only [Request.onView, Request.wants]
    split
    · rw [TableView.rowTexts_eq_texts]
      exact hc.texts hf numbers _
    · simpa using hc
  | _ => simpa only [Request.onView, Request.wants, List.append_nil] using hc

theorem after_concat (sources : Array Source) (requests : List Request) (request : Request) :
    after sources (requests ++ [request]) = ((after sources requests).step request).2 := by
  simp only [after, List.foldl_append, List.foldl_cons, List.foldl_nil]

/-- A view that was just opened is the last one, and has asked for nothing. -/
theorem views_openView (before : List Request) (hsource : sources[number]? = some source)
    (hrows : source.rowCount < RowNumbers.capacity) :
    (after sources (before ++ [.openView number])).views[
      (Ledger.after sources before).opened.length]? = some (number, { source }) := by
  have h := Agrees.after sources before
  have hsize : (Ledger.after sources before).opened.length =
      (after sources before).views.size := by
    rw [← h.opened, List.length_map, Array.length_toList]
  obtain ⟨numbers, hn⟩ := h.counting.exists_ensure_iff.mpr hrows
  rw [after_concat, hsize]
  simp only [SharedViews.step, h.data, hsource, TableView.openOn, hn, Array.getElem?_push_size]

/-- What the requests after its opening wanted of a view explains its calls. -/
theorem counts_after (before : List Request) (hsource : sources[number]? = some source)
    (hrows : source.rowCount < RowNumbers.capacity) (later : List Request) :
    ∃ table,
      (after sources (before ++ .openView number :: later)).views[
        (Ledger.after sources before).opened.length]? = some (number, table) ∧
      table.source = source ∧
      table.Counts
        (later.flatMap (Request.wants source (Ledger.after sources before).opened.length)) := by
  induction later using List.reverseRecOn with
  | nil => exact ⟨_, views_openView before hsource hrows, rfl, .fresh source⟩
  | append_singleton later request ih =>
    obtain ⟨table, hv, rfl, hc⟩ := ih
    obtain ⟨-, hf, -⟩ := (Agrees.after sources _).faithful _ _ _ hv
    have hnext := views_step hv request
    rw [← after_concat, List.append_assoc, List.cons_append] at hnext
    obtain ⟨hs', -, -⟩ := (Agrees.after sources _).faithful _ _ _ hnext
    refine ⟨_, hnext, Option.some.inj (hs'.symm.trans hsource), ?_⟩
    rw [List.flatMap_append, List.flatMap_singleton]
    exact Counts.onView hc hf _ _ request

/-- **The calls of a view are its own.** A view that was opened after some requests has
asked its source, after any later ones, once for each cell of the source that was wanted
of this view, and once for each time that a place was wanted where the source has no
cell; or for nothing, if the cells of the source cannot be laid out. A further request
for row numbers, sizes, names, types, widths or links, or to another view, leaves the
view as it is. -/
theorem calls_of_view (before : List Request)
    (hview : view = (Ledger.after sources before).opened.length)
    (hsource : sources[number]? = some source) (hrows : source.rowCount < RowNumbers.capacity)
    (later : List Request) :
    ∃ table,
      (after sources (before ++ .openView number :: later)).views[view]? = some (number, table) ∧
      (∀ place, table.asked.count place =
        source.callsFor place ((later.flatMap (Request.wants source view)).count place)) ∧
      ∀ request, ¬request.AsksView view →
          (after sources (before ++ .openView number :: later ++ [request])).views[view]? =
          some (number, table) := by
  subst hview
  obtain ⟨table, hv, rfl, hc⟩ := counts_after before hsource hrows later
  refine ⟨table, hv, hc.calls, fun request hrequest => ?_⟩
  rw [after_concat, views_step hv, Request.onView_of_not_asksView hrequest]

/-- Two views on one source, asked in turn: a cell wanted twice is one call, a place past
the end wanted twice is two, and what the first view asked for saves nothing. -/
theorem calls_of_view_second :
    ∃ table,
      (after #[.grid 2 1] [.openView 0, .openView 0, .cell 0 1 1, .cell 1 1 1, .cell 1 7 1,
        .width 1 1, .cell 1 1 1, .cell 1 0 0, .cell 1 7 1]).views[1]? = some (0, table) ∧
      table.asked.count (1, 0) = 1 ∧ table.asked.count (7, 0) = 2 ∧
      table.asked.count (0, 0) = 0 := by
  have hview : 1 = (Ledger.after #[.grid 2 1] [.openView 0]).opened.length := by decide
  have hsource : #[Source.grid 2 1][0]? = some (.grid 2 1) := rfl
  obtain ⟨table, hv, hcalls, -⟩ := calls_of_view [.openView 0] hview hsource (by decide)
    [.cell 0 1 1, .cell 1 1 1, .cell 1 7 1, .width 1 1, .cell 1 1 1, .cell 1 0 0, .cell 1 7 1]
  exact ⟨table, hv, (hcalls _).trans (by decide), (hcalls _).trans (by decide),
    (hcalls _).trans (by decide)⟩

/-- A source of one row whose cells cannot be laid out: it has the cell that is wanted, and
is not asked for it. -/
theorem wanted_cell_never_asked :
    (Source.grid 1 0x1000000000000000).HasCell (0, 0) ∧
    Request.wants (.grid 1 0x1000000000000000) 0 (.cell 0 0 1) = [(0, 0)] ∧
    ∃ table,
      (after #[.grid 1 0x1000000000000000] [.openView 0, .cell 0 0 1]).views[0]? =
        some (0, table) ∧
      table.asked.count (0, 0) = 0 :=
  ⟨by decide, by decide, _, rfl, rfl⟩

end SharedViews

end AttributeBrowser
