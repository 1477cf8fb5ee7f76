import AttributeBrowser.Proofs.Frame.MeasuredWidths
import AttributeBrowser.Proofs.Table.SharedViews

/-!
# The column of row numbers of a frame

The row numbers of a frame are written by a store that all tables share, and count from zero;
the width of their column is measured once, on the height of the frame. Both meet because a
larger number never has fewer digits. The largest width is no bound for it: a store of row
numbers is far too small for rows whose numbers would reach it.
-/

namespace AttributeBrowser

/-! ## Widths and heights -/

namespace Frame

variable {height taller row : ℕ}

theorem four_le_numberWidth (height : ℕ) : 4 ≤ numberWidth height := by
  have hlimit : 4 ≤ widthLimit := by decide
  unfold numberWidth
  omega

/-- A higher frame has no narrower row numbers. -/
theorem numberWidth_mono (h : height ≤ taller) : numberWidth height ≤ numberWidth taller := by
  have hlength := length_repr_mono (max_le_max h (Nat.le_refl 1))
  unfold numberWidth
  omega

/-- Of a frame whose rows can be numbered, no width reaches the limit. -/
theorem length_repr_height_le (h : height < RowNumbers.capacity) :
    (max height 1).repr.length + margin ≤ widthLimit := by
  have hdigits : (max height 1).repr.length ≤ 18 := by
    rw [length_repr_le_iff (by decide)]
    have hcapacity : RowNumbers.capacity ≤ 10 ^ 18 := by decide
    omega
  have hroom : 18 + margin ≤ widthLimit := by decide
  omega

/-- **The number of every row fits** beside the margin. -/
theorem length_repr_row_le (hrow : row < height) (h : height < RowNumbers.capacity) :
    row.repr.length + margin ≤ numberWidth height := by
  have hlimit := length_repr_height_le h
  have hdigits : row.repr.length ≤ (max height 1).repr.length := length_repr_mono (by omega)
  unfold numberWidth
  omega

theorem numberWidth_source {frame : Frame} {maxWidth : ℕ} {raw : Source}
    (h : frame.source maxWidth = .ok raw) : raw.columnWidth 0 = .ok (numberWidth frame.height) := by
  unfold source at h
  split at h
  · cases h
  · cases h
    rfl

end Frame

/-! ## Numbers in views -/

namespace SharedViews

variable {sources : Array Source} {requests : List Request} {number : ℕ} {source : Source}

/-- After any requests a source can be opened exactly if all its rows can be numbered. -/
theorem exists_openView_iff (hsource : sources[number]? = some source) :
    (∃ answer, ((after sources requests).step (.openView number)).1 = .ok answer) ↔
      source.rowCount < RowNumbers.capacity := by
  have hagrees := Agrees.after sources requests
  have hdata := hagrees.data
  rw [← hagrees.counting.exists_ensure_iff]
  simp only [step, hdata, hsource, TableView.openOn]
  cases (after sources requests).numbers.ensure source.rowCount with
  | error fault => simp
  | ok numbers => simp

/-- An opened view has the number of each of its rows, and there are not too many of them. -/
theorem text_of_opened {view : ℕ} {table : TableView}
    (hview : (after sources requests).views[view]? = some (number, table)) :
    table.source.rowCount < RowNumbers.capacity ∧ ∀ row < table.source.rowCount,
      (table.cell (after sources requests).numbers row 0).1 = .ok (.text row.repr) := by
  have hagrees := Agrees.after sources requests
  obtain ⟨-, -, hrows⟩ := hagrees.faithful view number table hview
  have hbounded := hagrees.counting.bounded
  have hsize := hagrees.size
  refine ⟨by omega, ?_⟩
  intro row hrow
  have hthere : row < (after sources requests).numbers.size := by omega
  rw [TableView.cell, hagrees.counting.text_eq, if_pos hthere]

end SharedViews

namespace Frame

open SharedViews

/-- **Row numbers of a frame are never cut off.** Let a frame be shown with any limit for its
columns. It can be opened in a view, whatever was opened and asked for before, exactly if its
rows can be numbered at all. In every view opened on it, among any others, each row has its
decimal number, and that takes at most the width of the column of row numbers less the margin
of two. The column is at least four wide, and with more rows it is not narrower. -/
theorem row_numbers_never_cut_off {frame : Frame} {maxWidth : ℕ} {raw : Source}
    (h : frame.source maxWidth = .ok raw) :
    ∃ width, raw.columnWidth 0 = .ok width ∧ 4 ≤ width ∧
      (∀ (sources : Array Source) (requests : List Request) (number : ℕ),
        sources[number]? = some raw →
          ((∃ answer, ((after sources requests).step (.openView number)).1 = .ok answer) ↔
            frame.height < RowNumbers.capacity)) ∧
      (∀ (sources : Array Source) (requests : List Request) (view number : ℕ) (table : TableView),
        (after sources requests).views[view]? = some (number, table) → table.source = raw →
          ∀ row < raw.rowCount,
            (table.cell (after sources requests).numbers row 0).1 = .ok (.text row.repr) ∧
            row.repr.length ≤ width - 2) ∧
      ∀ (taller : Frame) (wider : ℕ) (other : Source), frame.height ≤ taller.height →
        taller.source wider = .ok other → raw.NotWider other 0 := by
  have hrows := rowCount_source h
  refine ⟨_, numberWidth_source h, four_le_numberWidth _, ?_, ?_, ?_⟩
  · intro sources requests number hsource
    rw [exists_openView_iff hsource, hrows]
  · intro sources requests view number table hview hsource row hrow
    obtain ⟨hbounded, htexts⟩ := text_of_opened hview
    rw [hsource] at hbounded htexts
    refine ⟨htexts row hrow, ?_⟩
    rw [hrows] at hrow hbounded
    have hfits := length_repr_row_le hrow hbounded
    exact Nat.le_sub_of_add_le hfits
  · intro taller wider other hheight hother
    exact ⟨_, _, numberWidth_source h, numberWidth_source hother, numberWidth_mono hheight⟩

/-- A frame of a thousand and one empty cells. -/
def thousandOne : Frame where
  columns := #[⟨"a", .empties 1001⟩]
  height := 1001
  size_eq := by decide
  nodup := by decide

/-- The last of a thousand and one rows has the first number of four digits; they fill the column
up to the margin. -/
theorem row_numbers_never_cut_off_thousand :
    ∃ raw table, thousandOne.source 1 = .ok raw ∧ raw.columnWidth 0 = .ok 6 ∧
      (after #[raw] [.openView 0]).views[0]? = some (0, table) ∧ table.source = raw ∧
      1000 < raw.rowCount ∧
      (table.cell (after #[raw] [.openView 0]).numbers 1000 0).1 = .ok (.text "1000") ∧
      "1000".length ≤ 6 - 2 := by
  obtain ⟨raw, hraw⟩ : ∃ raw, thousandOne.source 1 = .ok raw :=
    exists_source_iff.mpr (by simp [thousandOne, ColumnCells.toTexts])
  have hrows : raw.rowCount = 1001 := rowCount_source hraw
  have hrow : 1000 < raw.rowCount := by omega
  have hopened : (Ledger.after #[raw] [.openView 0]).opened[0]? = some 0 := by
    simp [Ledger.after, Ledger.record, hrows, RowNumbers.capacity]
  obtain ⟨table, hview, hsource, -, -⟩ :=
    (Agrees.after #[raw] [.openView 0]).exists_view hopened rfl
  obtain ⟨width, hwidth, -, -, htexts, -⟩ := row_numbers_never_cut_off hraw
  obtain ⟨htext, hlength⟩ := htexts _ _ 0 0 table hview hsource 1000 hrow
  have hsix : raw.columnWidth 0 = .ok 6 := (numberWidth_source hraw).trans (by decide)
  cases hwidth.symm.trans hsix
  exact ⟨raw, table, hraw, hsix, hview, hsource, hrow, htext, hlength⟩

end Frame

end AttributeBrowser
