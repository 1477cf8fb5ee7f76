import Mathlib.Data.List.Nodup
import AttributeBrowser.Proofs.Table.Calls
import AttributeBrowser.Proofs.Viewer.Window

/-!
# The viewer computes each cell at most once

A viewer asks its table for the cells of the window and for the cell under the cursor.
All of these are in the table, and as a run goes on only if they could be read, the
source was asked for cells that it has, and for none of them twice (`AskedOnce`). This
holds through every pass of the column scroll, which shows the window anew.
-/

namespace AttributeBrowser

namespace TableView

variable {view next : TableView} {numbers : RowNumbers} {row column : Nat}

/-- The places wanted so far, whatever they were, are cells that the source has. -/
structure AskedOnce (view : TableView) : Prop where
  faithful : view.Faithful
  counts : ∃ wanted, view.Counts wanted ∧ ∀ place ∈ wanted, view.source.HasCell place

theorem AskedOnce.fresh (source : Source) : AskedOnce { source } where
  faithful := .fresh source
  counts := ⟨[], .fresh source, by simp⟩

/-- Each call is for a cell of the source, and no cell takes two. -/
theorem AskedOnce.asked (h : AskedOnce view) :
    view.asked.Nodup ∧ ∀ place ∈ view.asked, view.source.HasCell place := by
  obtain ⟨-, wanted, hc, hwanted⟩ := h
  have hcell : ∀ place ∈ view.asked, view.source.HasCell place := by
    intro place hmem
    apply hwanted
    have hle := (view.source.callsFor_le place (wanted.count place)).1
    rw [← hc.calls] at hle
    exact List.count_pos_iff.mp (Nat.lt_of_lt_of_le (List.count_pos_iff.mpr hmem) hle)
  refine ⟨List.nodup_iff_count_le_one.mpr fun place => ?_, hcell⟩
  by_cases hmem : place ∈ view.asked
  · rw [hc.calls]
    exact (view.source.callsFor_le place _).2 (hcell place hmem)
  · rw [List.count_eq_zero.mpr hmem]
    exact Nat.zero_le 1

/-- A cell of the table that is answered keeps the source asked once. -/
theorem AskedOnce.cell (h : AskedOnce view) {answer : Cell}
    (hcell : view.cell numbers row column = (.ok answer, next))
    (hrow : row < view.source.rowCount) (hcolumn : column ≤ view.source.columnCount) :
    AskedOnce next ∧ next.source = view.source := by
  obtain ⟨hf, wanted, hc, hwanted⟩ := h
  obtain ⟨hf', hx⟩ := hf.after_cell numbers row column
  have hc' := hc.cell hf numbers row column
  have hok : (view.cell numbers row column).1.isOk = true := by
    rw [hcell]
    rfl
  rw [hcell] at hf' hx hc'
  refine ⟨⟨hf', _, hc', ?_⟩, hx.source⟩
  rw [hx.source]
  intro place hplace
  rcases List.mem_append.mp hplace with hplace | hplace
  · exact hwanted place hplace
  · cases column with
    | zero => cases hplace
    | succ column =>
      obtain ⟨-, hvalue⟩ := (hf.isOk_cell numbers row column).mp hok
      obtain rfl : place = (row, column) := by simpa [Source.read] using hplace
      exact ⟨hrow, hcolumn, hvalue⟩

end TableView

namespace Viewer

variable {source : Source} {viewer next : Viewer}

/-- The viewer shows a table of the source, which was asked for its cells only and for none
of them twice. -/
structure AsksOnce (source : Source) (viewer : Viewer) : Prop where
  table : viewer.table.source = source
  asked : viewer.table.AskedOnce

/-- **Showing the window** asks for cells of the table only. -/
theorem AsksOnce.refresh {moved : Viewer} (h : AsksOnce source viewer)
    (hshow : moved.refresh = .ok next) (htable : moved.table = viewer.table) :
    AsksOnce source next := by
  obtain ⟨hsource, hasked⟩ := h
  rw [← htable] at hsource hasked
  obtain ⟨shown, columns, table, hlayout, -, hcolumns, -, rfl⟩ := refresh_eq_ok_iff.mp hshow
  obtain ⟨-, hle⟩ := layout_eq_ok hlayout
  obtain ⟨hsource', hasked'⟩ := showColumns_keeps
    (P := fun view => view.source = source ∧ view.AskedOnce)
    (S := fun place => place.1 < source.rowCount ∧ place.2 ≤ source.columnCount) (by
      rintro view next row column cell ⟨rfl, hview⟩ ⟨hrow, hcolumn⟩ hcell
      obtain ⟨hnext, hsource⟩ := hview.cell hcell hrow hcolumn
      exact ⟨hsource, hnext⟩) ⟨hsource, hasked⟩ hcolumns (by
    intro row hrow column hcolumn
    have hlt := lt_of_mem_rowsShown hrow
    rw [hsource] at hlt hle
    exact ⟨hlt, hle column hcolumn⟩)
  exact ⟨hsource', hasked'⟩

theorem AsksOnce.scrollToCursor (h : AsksOnce source viewer)
    (hscroll : viewer.scrollToCursor = .ok next) : AsksOnce source next :=
  scrollToCursor_induct (P := AsksOnce source) (fun _ _ hmiddle hshow => hmiddle.refresh hshow rfl)
    hscroll h

/-- **No message asks for a cell twice**, or for a place that the source does not have. -/
theorem AsksOnce.step {message : Message} (h : AsksOnce source viewer)
    (hstep : Step viewer message next) : AsksOnce source next := by
  cases hstep with
  | quit => exact ⟨h.table, h.asked⟩
  | rows _ hshow => exact h.refresh hshow rfl
  | sameRows _ _ => exact h
  | left _ hshow => exact h.refresh hshow rfl
  | firstColumn _ => exact h
  | right _ hshow hscroll => exact (h.refresh hshow rfl).scrollToCursor hscroll
  | lastColumn _ => exact h
  | follow _ _ => exact ⟨h.table, h.asked⟩
  | copy hplace hcell =>
    obtain ⟨hrow, hcolumn⟩ := hplace
    obtain ⟨hasked, hsource⟩ := h.asked.cell hcell hrow hcolumn
    exact ⟨hsource.trans h.table, hasked⟩
  | noPlace _ _ => exact h
  | resize hshow hscroll => exact (h.refresh hshow rfl).scrollToCursor hscroll

/-- **Each cell is computed at most once**, and only cells that exist. After every run that
does not fault, the source was asked for places of its own only, and for none twice. -/
theorem computes_cells_once {name : String} {clipboard : Option Clipboard} {source : Source}
    {earlier : List Nat} {width height : Nat} {messages : List Message}
    (h : browse name clipboard source earlier width height messages = .ok viewer) :
    viewer.table.asked.Nodup ∧
      ∀ place ∈ viewer.table.asked,
        place.1 < source.rowCount ∧ place.2 < source.columnCount := by
  have hall : AsksOnce source viewer := by
    refine browse_induct (P := fun _ viewer => AsksOnce source viewer) ?_ ?_ h
    · intro numbers first message _ _ hfirst
      have hunshown : AsksOnce source (unshown name clipboard source numbers) :=
        ⟨rfl, .fresh source⟩
      have hshown := hunshown.step hfirst
      exact ⟨hshown.table, hshown.asked⟩
    · intro messages viewer next message hviewer hnext
      exact hviewer.step hnext
  obtain ⟨hnodup, hcells⟩ := hall.asked.asked
  rw [hall.table] at hcells
  refine ⟨hnodup, fun place hmem => ?_⟩
  obtain ⟨hrow, hcolumn, -⟩ := hcells place hmem
  exact ⟨hrow, hcolumn⟩

/-- Rows are scrolled through, a cell is copied, and the screen changes its size. -/
theorem computes_cells_once_copied :
    ∃ viewer, browse "" none (.grid 3 2) [] 80 3 [.moveDown 2, .copyCell, .resize 80 4, .moveUp 9] =
        .ok viewer ∧
      viewer.table.asked.Nodup := by
  have hok : (browse "" none (.grid 3 2) [] 80 3
      [.moveDown 2, .copyCell, .resize 80 4, .moveUp 9]).isOk = true := by cbv
  obtain ⟨viewer, h⟩ := exists_eq_ok_of_isOk hok
  exact ⟨viewer, h, (computes_cells_once h).1⟩

end Viewer

end AttributeBrowser
