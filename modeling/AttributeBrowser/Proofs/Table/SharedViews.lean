import AttributeBrowser.Table.SharedViews
import AttributeBrowser.Proofs.Table.View

/-!
# Views that share their row numbers: no memory shows

However requests to any number of views are interleaved, a cell reads what the
source of its view says, and a row number reads its decimal text as far as any
granted request needed row numbers. The `Ledger` keeps just what was granted, and
`Agrees` ties it to the views; every request, also one that ends with a fault,
keeps the two in step.
-/

namespace AttributeBrowser

namespace SharedViews

/-- What the requests so far were granted, told without memos and texts. -/
structure Ledger where
  /-- The number of the source of each view, in the order opened. -/
  opened : List Nat := []
  /-- The most rows that an opened view has or that were asked for. -/
  rows : Nat := 0

namespace Ledger

/-- A view is opened, or row numbers are made, if a store of so many rows can be made. -/
def record (sources : Array Source) (ledger : Ledger) : Request → Ledger
  | .openView number =>
    match sources[number]? with
    | none => ledger
    | some source =>
      if source.rowCount < RowNumbers.capacity then
        { opened := ledger.opened ++ [number], rows := max ledger.rows source.rowCount }
      else ledger
  | .grow rows =>
    if rows < RowNumbers.capacity then { ledger with rows := max ledger.rows rows } else ledger
  | _ => ledger

/-- The ledger of some requests. -/
def after (sources : Array Source) (requests : List Request) : Ledger :=
  requests.foldl (record sources) {}

end Ledger

/-- The views after some requests, faults included. -/
def after (sources : Array Source) (requests : List Request) : SharedViews :=
  requests.foldl (fun shared request => (shared.step request).2) { sources }

/-- The views are those of the ledger, and each remembers only what its source says. -/
structure Agrees (sources : Array Source) (ledger : Ledger) (shared : SharedViews) : Prop where
  data : shared.sources = sources
  counting : shared.numbers.Counting
  size : shared.numbers.size = ledger.rows
  opened : shared.views.toList.map (·.1) = ledger.opened
  faithful : ∀ (view number : Nat) (table : TableView),
    shared.views[view]? = some (number, table) →
      sources[number]? = some table.source ∧ table.Faithful ∧
        table.source.rowCount ≤ ledger.rows

variable {sources : Array Source} {ledger : Ledger} {shared : SharedViews}

theorem Agrees.empty (sources : Array Source) : Agrees sources {} { sources } where
  data := rfl
  counting := .empty
  size := rfl
  opened := rfl
  faithful := by
    intro view number table h
    simp at h

/-! ## One request -/

/-- More row numbers for all views. -/
theorem Agrees.grow (h : Agrees sources ledger shared) {rows : Nat} {numbers : RowNumbers}
    (hn : shared.numbers.ensure rows = .ok numbers) :
    Agrees sources { ledger with rows := max ledger.rows rows } { shared with numbers } where
  data := h.data
  counting := h.counting.ensure hn
  size := by rw [RowNumbers.size_ensure hn, h.size]
  opened := h.opened
  faithful := by
    intro view number table hv
    obtain ⟨hs, hf, hle⟩ := h.faithful view number table hv
    exact ⟨hs, hf, Nat.le_trans hle (Nat.le_max_left _ _)⟩

/-- One more view, on a source whose rows all have their numbers. -/
theorem Agrees.push (h : Agrees sources ledger shared) {number : Nat} {source : Source}
    (hs : sources[number]? = some source) (hle : source.rowCount ≤ ledger.rows) :
    Agrees sources { ledger with opened := ledger.opened ++ [number] }
      { shared with views := shared.views.push (number, { source }) } where
  data := h.data
  counting := h.counting
  size := h.size
  opened := by simp [h.opened]
  faithful := by
    intro view number' table hv
    rw [Array.getElem?_push] at hv
    split at hv
    · cases hv
      exact ⟨hs, .fresh source, hle⟩
    · exact h.faithful view number' table hv

/-- A view that has answered is put back in its place. -/
theorem Agrees.put (h : Agrees sources ledger shared) {view number : Nat} {table : TableView}
    (hv : shared.views[view]? = some (number, table)) {α : Type}
    {result : Except Fault α × TableView} (answer : α → Nat → Answer)
    (hf : result.2.Faithful) (hx : table.Extends result.2) :
    Agrees sources ledger (shared.put view number result answer).2 where
  data := h.data
  counting := h.counting
  size := h.size
  opened := by
    have hlt : view < shared.views.size := (Array.getElem?_eq_some_iff.mp hv).1
    have hold : shared.views[view] = (number, table) := (Array.getElem?_eq_some_iff.mp hv).2
    -- the view keeps its source, so the list of sources reads as before
    rw [← h.opened]
    apply List.ext_getElem?
    intro i
    simp only [SharedViews.put, Array.toList_setIfInBounds, List.getElem?_map, List.getElem?_set,
      Array.length_toList]
    by_cases hi : view = i
    · subst hi
      simp [hlt, hold]
    · simp [hi]
  faithful := by
    intro view' number' table' hv'
    simp only [SharedViews.put, Array.getElem?_setIfInBounds] at hv'
    obtain ⟨hs, -, hle⟩ := h.faithful view number table hv
    split at hv'
    · split at hv'
      · cases hv'
        rw [hx.source]
        exact ⟨hs, hf, hle⟩
      · cases hv'
    · exact h.faithful view' number' table' hv'

/-- A request that only reads the views. -/
theorem step_ask (shared : SharedViews) (view : Nat) (answer : TableView → Except Fault Answer) :
    (shared.ask view answer).2 = shared := by
  unfold ask
  split <;> rfl

/-- **Every request keeps views and ledger in step**, whatever it is answered with. -/
theorem Agrees.step (h : Agrees sources ledger shared) (request : Request) :
    Agrees sources (ledger.record sources request) (shared.step request).2 := by
  cases request with
  | openView number =>
    obtain rfl := h.data
    simp only [SharedViews.step, Ledger.record]
    cases hs : shared.sources[number]? with
    | none => exact h
    | some source =>
      simp only [TableView.openOn]
      cases hn : shared.numbers.ensure source.rowCount with
      | error fault =>
        have hlarge := (RowNumbers.ensure_eq_error_iff.mp hn).2.1
        rw [if_neg (by omega)]
        exact h
      | ok numbers =>
        rw [if_pos (h.counting.exists_ensure_iff.mp ⟨numbers, hn⟩)]
        exact (h.grow hn).push hs (Nat.le_max_right _ _)
  | grow rows =>
    simp only [SharedViews.step, Ledger.record]
    cases hn : shared.numbers.ensure rows with
    | error fault =>
      have hlarge := (RowNumbers.ensure_eq_error_iff.mp hn).2.1
      rw [if_neg (by omega)]
      exact h
    | ok numbers =>
      rw [if_pos (h.counting.exists_ensure_iff.mp ⟨numbers, hn⟩)]
      exact h.grow hn
  | cell view row column =>
    simp only [SharedViews.step, Ledger.record]
    split
    · exact h
    · rename_i number table hv
      obtain ⟨-, hf, -⟩ := h.faithful view number table hv
      obtain ⟨hf', hx⟩ := hf.after_cell shared.numbers row column
      exact h.put hv _ hf' hx
  | dump view =>
    simp only [SharedViews.step, Ledger.record]
    split
    · exact h
    · rename_i number table hv
      obtain ⟨-, hf, -⟩ := h.faithful view number table hv
      split
      · exact h
      · rename_i columns hcolumns
        obtain ⟨hf', hx⟩ :=
          hf.after_rowTexts shared.numbers columns (List.range table.rowCount)
        exact h.put hv _ hf' hx
  | link view row column =>
    simp only [SharedViews.step, Ledger.record]
    split
    · exact h
    · split
      · exact h
      · exact ⟨h.data, h.counting, h.size, h.opened, h.faithful⟩
  | calls view =>
    simp only [SharedViews.step, Ledger.record]
    split <;> exact h
  | numbers => exact h
  | size view => simpa only [SharedViews.step, Ledger.record, step_ask] using h
  | name view column => simpa only [SharedViews.step, Ledger.record, step_ask] using h
  | type view column => simpa only [SharedViews.step, Ledger.record, step_ask] using h
  | width view column => simpa only [SharedViews.step, Ledger.record, step_ask] using h
  | editable view row column => simpa only [SharedViews.step, Ledger.record, step_ask] using h

/-- Views and ledger are in step after any requests. -/
theorem Agrees.after (sources : Array Source) (requests : List Request) :
    Agrees sources (Ledger.after sources requests) (after sources requests) := by
  suffices ∀ ledger shared, Agrees sources ledger shared →
      Agrees sources (requests.foldl (Ledger.record sources) ledger)
        (requests.foldl (fun shared request => (shared.step request).2) shared) from
    this {} _ (Agrees.empty sources)
  induction requests with
  | nil => intro ledger shared h; exact h
  | cons request rest ih => intro ledger shared h; exact ih _ _ (h.step request)

/-! ## Cells -/

/-- A view of the ledger is there, on its source. -/
theorem Agrees.exists_view (h : Agrees sources ledger shared) {view number : Nat} {source : Source}
    (hview : ledger.opened[view]? = some number) (hsource : sources[number]? = some source) :
    ∃ table, shared.views[view]? = some (number, table) ∧ table.source = source ∧
      table.Faithful ∧ source.rowCount ≤ ledger.rows := by
  rw [← h.opened, List.getElem?_map] at hview
  obtain ⟨⟨number', table⟩, hv, rfl⟩ := Option.map_eq_some_iff.mp hview
  rw [Array.getElem?_toList] at hv
  obtain ⟨hs, hf, hle⟩ := h.faithful view number' table hv
  obtain rfl : table.source = source := Option.some.inj (hs.symm.trans hsource)
  exact ⟨table, hv, rfl, hf, hle⟩

/-- The answer to a request for a cell is the one of its view. -/
theorem step_cell {view number : Nat} {table : TableView}
    (hv : shared.views[view]? = some (number, table)) (row column : Nat) :
    ∃ calls, (shared.step (.cell view row column)).1 =
      (table.cell shared.numbers row column).1.map (.cell · calls) := by
  simp only [SharedViews.step, hv]
  exact ⟨_, rfl⟩

/-- **No memory shows.** After any requests, a cell of a view reads what the source
of the view says there, or faults where the source does; only if the cells of the
source cannot be laid out in a memo, all of them fault. A row number reads its
decimal text as far as rows were granted, the rows of the view among them, and
`null` behind. -/
theorem cell_answers_as_source {sources : Array Source} {requests : List Request}
    {view number : Nat} {source : Source}
    (hview : (Ledger.after sources requests).opened[view]? = some number)
    (hsource : sources[number]? = some source) (row : Nat) :
    (∀ column, ∃ calls,
      (source.FitsMemo →
        ((after sources requests).step (.cell view row (column + 1))).1 =
          (source.valueAt row column).map (.cell · calls)) ∧
      (¬source.FitsMemo → ∃ fault,
        ((after sources requests).step (.cell view row (column + 1))).1 = .error fault)) ∧
    (∃ calls, ((after sources requests).step (.cell view row 0)).1 =
      .ok (.cell (.text (if row < (Ledger.after sources requests).rows then row.repr
        else RowNumbers.missing)) calls)) ∧
    (row < source.rowCount → row < (Ledger.after sources requests).rows) ∧
    row.repr ≠ RowNumbers.missing := by
  have h := Agrees.after sources requests
  obtain ⟨table, hv, rfl, hf, hle⟩ := h.exists_view hview hsource
  refine ⟨fun column => ?_, ?_, fun hrow => by omega, RowNumbers.repr_ne_missing row⟩
  · obtain ⟨calls, hcell⟩ := step_cell hv row (column + 1)
    obtain ⟨hyes, hno⟩ := (TableView.asks_sourceCell table row column).answer hf
    refine ⟨calls, fun hfits => ?_, fun hfull => ?_⟩
    · rw [hcell, ← hyes hfits]
      rfl
    · obtain ⟨fault, hfault⟩ := hno hfull
      exact ⟨fault, by rw [hcell, TableView.cell, hfault]; rfl⟩
  · obtain ⟨calls, hcell⟩ := step_cell hv row 0
    refine ⟨calls, ?_⟩
    rw [hcell, TableView.cell, h.counting.text_eq, h.size]
    rfl

/-- The second of two views on one source, after a request past the end and more row
numbers than the source has rows. -/
theorem cell_answers_as_source_second_view :
    (Ledger.after #[.grid 2 1]
      [.openView 0, .openView 0, .cell 1 7 3, .grow 5]).opened[1]? = some 0 ∧
    (#[Source.grid 2 1])[0]? = some (.grid 2 1) ∧
    (∃ calls, ((after #[.grid 2 1] [.openView 0, .openView 0, .cell 1 7 3, .grow 5]).step
      (.cell 1 1 1)).1 = .ok (.cell (.number 100) calls)) ∧
    ∃ calls, ((after #[.grid 2 1] [.openView 0, .openView 0, .cell 1 7 3, .grow 5]).step
      (.cell 1 1 0)).1 = .ok (.cell (.text "1") calls) := by
  have hview : (Ledger.after #[.grid 2 1]
      [.openView 0, .openView 0, .cell 1 7 3, .grow 5]).opened[1]? = some 0 := by decide
  obtain ⟨hcell, ⟨calls, hnumber⟩, -, -⟩ :=
    cell_answers_as_source hview (show (#[Source.grid 2 1])[0]? = some (.grid 2 1) from rfl) 1
  obtain ⟨calls', hyes, -⟩ := hcell 0
  exact ⟨hview, rfl, ⟨calls', hyes (by decide)⟩, ⟨calls, hnumber⟩⟩

/-- A source of one row whose cells cannot be laid out: the source has the cell, and
the view faults. -/
theorem cell_of_source_without_memo :
    (Source.grid 1 0x1000000000000000).valueAt 0 0 = .ok (.number 0) ∧
    ((after #[.grid 1 0x1000000000000000] [.openView 0]).step (.cell 0 0 1)).1 =
      .error .capacity := by
  exact ⟨rfl, rfl⟩

end SharedViews

end AttributeBrowser
