import AttributeBrowser.Proofs.Viewer.Ready

/-!
# The columns shown and the width of the screen

Columns that take no more than the width of a screen stand there side by side, each with all
its squares. As long as a viewer shows more than one column of its source, its columns do
so. It shows as many as it can, with one exception: columns that would fill the screen exactly
leave no room for the blank that the layout counts behind the last one, so that one stays out.
-/

namespace AttributeBrowser

/-! ## Columns side by side -/

theorem Rounding.halfUp_one (n : Nat) : halfUp n 1 = n := by
  unfold halfUp
  omega

namespace Columns

/-- Where a column starts: behind all columns before it and their blanks. -/
def start : List Nat → Nat → Nat
  | width :: rest, index + 1 => width + spacing + start rest index
  | _, _ => 0

theorem getElem?_edges (x : Nat) (widths : List Nat) (index : Nat) :
    (edges 1 x widths)[index]? = widths[index]?.map fun width =>
      ⟨x + start widths index, x + start widths index + width⟩ := by
  induction widths generalizing x index with
  | nil => rfl
  | cons width rest ih =>
    cases index with
    | zero => simp only [edges, Rounding.halfUp_one, start, List.getElem?_cons_zero,
        Option.map_some, Nat.add_zero]
    | succ index =>
      rw [edges, List.getElem?_cons_succ, List.getElem?_cons_succ, ih, start, Nat.mul_one,
        Nat.add_assoc x width spacing, Nat.add_assoc]

theorem total_cons_cons (first second : Nat) (rest : List Nat) :
    total (first :: second :: rest) = first + spacing + total (second :: rest) := by
  simp only [total, List.foldr_cons, List.length_cons, Nat.add_sub_cancel, spacing]
  omega

theorem start_add_le_total {widths : List Nat} {index : Nat} (h : index < widths.length) :
    start widths index + widths[index] ≤ total widths := by
  induction widths generalizing index with
  | nil => exact absurd h (Nat.not_lt_zero index)
  | cons first rest ih =>
    cases rest with
    | nil =>
      obtain rfl : index = 0 := by simpa using h
      simp [start, total]
    | cons second rest =>
      rw [total_cons_cons]
      cases index with
      | zero =>
        simp only [start, List.getElem_cons_zero]
        omega
      | succ index =>
        have hrest := ih (Nat.lt_of_succ_lt_succ h)
        rw [start, List.getElem_cons_succ]
        omega

/-- **Columns that fit are neither squeezed nor pushed off the screen**: each has as many squares
as it asks for, behind those before it. -/
theorem areas_of_fits {width : Nat} {widths : List Nat} (h : total widths ≤ width) {index : Nat}
    (hindex : index < widths.length) :
    (areas width widths)[index]? =
        some ⟨start widths index, start widths index + widths[index]⟩ ∧
      start widths index + widths[index] ≤ width := by
  refine ⟨?_, Nat.le_trans (start_add_le_total hindex) h⟩
  rw [areas, if_pos h, getElem?_edges, List.getElem?_eq_getElem hindex, Option.map_some]
  simp only [Nat.zero_add]

end Columns

/-- The row numbers and two columns or more, from a first one on, take the whole width of a
screen. -/
def Source.FillsExactly (source : Source) (width first : Nat) : Prop :=
  ∃ count, 1 < count ∧ first + count ≤ source.columnCount + 1 ∧
    Columns.total ((0 :: List.range' first count).map source.squares) = width

namespace Source

variable {source : Source} {width first count : Nat}

/-- Behind the columns laid out, the next one fills the screen exactly or does not fit. -/
theorem fillsExactly_iff (h : Fitted source width first count)
    (hnext : first + count ≤ source.columnCount) :
    source.FillsExactly width first ↔ source.span first (count + 1) = width := by
  have hpos := h.pos
  constructor
  · rintro ⟨more, hmore, -, htotal⟩
    rw [total_squares] at htotal
    -- so many columns are more than are laid out, and no fewer than would fill the screen
    have hlt : count < more := by
      apply Nat.lt_of_not_le
      intro hle
      have hfits := h.fits (by omega)
      have hspan := source.span_mono first hle
      omega
    have hspan := source.span_mono first hlt
    have hfull := h.full hnext
    exact Nat.le_antisymm (htotal ▸ hspan) hfull
  · intro hspan
    exact ⟨count + 1, by omega, by omega, (total_squares source first _).trans hspan⟩

end Source

namespace Viewer

variable {viewer : Viewer} {source : Source}

/-- The widths of the columns shown. -/
def widths (viewer : Viewer) : List Nat := viewer.window.columns.map (·.width)

theorem Exact.widths_eq (h : Exact source viewer) :
    viewer.widths = viewer.shown.map source.squares := by
  have hcolumns := h.columns
  rw [← h.table]
  unfold widths
  generalize viewer.shown = shown, viewer.window.columns = columns at hcolumns
  induction hcolumns with
  | nil => rfl
  | cons hfirst _ ih =>
    rw [List.map_cons, List.map_cons, ih, Source.squares_of_ok hfirst.width]

/-- The columns shown are those that fit from the first one on. -/
theorem Ready.exists_fitted (h : Ready source viewer) (hcolumns : 0 < source.columnCount) :
    ∃ count, Fitted source viewer.width viewer.offsetColumn count ∧
      viewer.shown = 0 :: List.range' viewer.offsetColumn count := by
  have hoffset := h.cursor.offset
  have hlast := h.cursor.last
  rw [← h.sound.table] at hcolumns hlast ⊢
  exact layout_fitted h.current.layout (by omega)

/-- Of a source without columns, the row numbers are shown alone. -/
theorem Ready.shown_of_no_columns (h : Ready source viewer) (hcolumns : source.columnCount = 0) :
    viewer.shown = [0] := by
  have hfirst := h.cursor.first
  refine layout_of_behind h.current.layout ?_
  rw [h.sound.table]
  omega

/-! ## Runs -/

/-- **The columns shown fit the screen.** After every run that does not fault, the columns
shown take no more than the width of the screen if more than one of them is a column of the
source, and each has all its squares there, behind those before it. They take more only if a
single column of the source is shown, or if the source has none. -/
theorem shown_columns_fit {name : String} {clipboard : Option Clipboard} {earlier : List Nat}
    {width height : Nat} {messages : List Message}
    (h : browse name clipboard source earlier width height messages = .ok viewer) :
    (2 < viewer.window.columns.length →
      Columns.total viewer.widths ≤ screenWidth width messages ∧
      ∀ index (hindex : index < viewer.widths.length),
        (Columns.areas (screenWidth width messages) viewer.widths)[index]? =
            some ⟨Columns.start viewer.widths index,
              Columns.start viewer.widths index + viewer.widths[index]⟩ ∧
          Columns.start viewer.widths index + viewer.widths[index] ≤
            screenWidth width messages) ∧
    (screenWidth width messages < Columns.total viewer.widths →
      viewer.window.columns.length = 2 ∨
        source.columnCount = 0 ∧ viewer.window.columns.length = 1) := by
  have hready := ready_browse h
  have hexact := hready.current.exact hready.sound
  rw [← width_browse h, ← hexact.columns.length_eq]
  rcases Nat.eq_zero_or_pos source.columnCount with hnone | hcolumns
  · rw [hready.shown_of_no_columns hnone]
    exact ⟨fun hmore => absurd hmore (by decide), fun _ => .inr ⟨hnone, rfl⟩⟩
  · obtain ⟨count, hfitted, hshown⟩ := hready.exists_fitted hcolumns
    have hfits : 2 < viewer.shown.length → Columns.total viewer.widths ≤ viewer.width := by
      intro hmore
      rw [hshown, List.length_cons, List.length_range'] at hmore
      rw [hexact.widths_eq, hshown, Source.total_squares]
      exact Nat.le_of_lt (hfitted.fits (by omega))
    refine ⟨fun hmore => ⟨hfits hmore, fun index hindex => ?_⟩, fun hover => .inl ?_⟩
    · exact Columns.areas_of_fits (hfits hmore) hindex
    · have hpos := hfitted.pos
      have hfew : ¬2 < viewer.shown.length := fun hmore => Nat.not_lt_of_le (hfits hmore) hover
      rw [hshown, List.length_cons, List.length_range'] at hfew ⊢
      omega

/-- Columns of other widths each, the last of which does not fit. -/
theorem shown_columns_fit_unequal :
    ∃ viewer,
      browse "" none { Source.grid 2 3 with columnWidth := fun column => .ok (column * 7) } [] 30 6
        [.moveRight] = .ok viewer ∧
      2 < viewer.window.columns.length ∧ Columns.total viewer.widths ≤ 30 := by
  have hmap : (browse "" none
      { Source.grid 2 3 with columnWidth := fun column => .ok (column * 7) } [] 30 6
        [.moveRight]).map (·.window.columns.length) = .ok 3 := by cbv
  obtain ⟨viewer, h, hlength⟩ := map_eq_ok_iff.mp hmap
  have hmore : 2 < viewer.window.columns.length := by omega
  obtain ⟨hfits, -⟩ := shown_columns_fit h
  exact ⟨viewer, h, hmore, (hfits hmore).1⟩

/-- The row numbers of a source without columns are wider than the screen. -/
theorem row_numbers_alone_exceed :
    ∃ viewer, browse "" none (.grid 1 0) [] 5 3 [] = .ok viewer ∧
      viewer.window.columns.length = 1 ∧ 5 < Columns.total viewer.widths := by
  have hmap : (browse "" none (.grid 1 0) [] 5 3 []).map
      (fun viewer => (viewer.window.columns.length, viewer.widths)) = .ok (1, [8]) := by cbv
  obtain ⟨viewer, h, hvalues⟩ := map_eq_ok_iff.mp hmap
  obtain ⟨hlength, hwidths⟩ := Prod.mk.inj hvalues
  refine ⟨viewer, h, hlength, ?_⟩
  rw [hwidths]
  decide

/-- **As many columns as fit are shown, but for an exact fit.** After every run that does not
fault, the columns shown and the one behind them, if there is one, take at least the width of the
screen; and they take more, so that it would not fit, exactly if the columns from the first
one on never fill the screen exactly. -/
theorem next_column_too_wide_iff {name : String} {clipboard : Option Clipboard} {earlier : List Nat}
    {width height last : Nat} {messages : List Message}
    (h : browse name clipboard source earlier width height messages = .ok viewer)
    (hlast : viewer.shown.getLast? = some last) (hbehind : last < source.columnCount) :
    ∃ squares, source.columnWidth (last + 1) = .ok squares ∧
      screenWidth width messages ≤ Columns.total (viewer.widths ++ [squares]) ∧
      (screenWidth width messages < Columns.total (viewer.widths ++ [squares]) ↔
        ¬source.FillsExactly (screenWidth width messages) viewer.offsetColumn) := by
  have hready := ready_browse h
  obtain ⟨count, hfitted, hshown⟩ := hready.exists_fitted (Nat.zero_lt_of_lt hbehind)
  have hpos := hfitted.pos
  have hnext : last + 1 = viewer.offsetColumn + count := by
    obtain ⟨others, rfl⟩ := Nat.exists_eq_add_of_le' hpos
    rw [hshown, List.range'_concat, ← List.cons_append, List.getLast?_concat] at hlast
    have hlast := Option.some.inj hlast
    omega
  rw [← width_browse h, hnext]
  have hin : viewer.offsetColumn + count ≤ source.columnCount := by omega
  have htotal : Columns.total (viewer.widths ++ [source.squares (viewer.offsetColumn + count)]) =
      source.span viewer.offsetColumn (count + 1) := by
    rw [(hready.current.exact hready.sound).widths_eq, hshown, ← Source.map_squares_concat,
      Source.total_squares]
  have hfull := hfitted.full hin
  refine ⟨_, hfitted.asked hin, ?_, ?_⟩
  · rw [htotal]
    exact hfull
  · rw [htotal, Source.fillsExactly_iff hfitted hin]
    omega

/-- Three columns leave squares of the screen free that the fourth does not fit in. -/
theorem next_column_too_wide_roomy :
    ∃ viewer, browse "" none (.grid 1 3) [] 30 6 [.moveRight] = .ok viewer ∧
      viewer.shown.getLast? = some 2 ∧ 2 < (Source.grid 1 3).columnCount ∧
      ∃ squares, (Source.grid 1 3).columnWidth 3 = .ok squares ∧
        30 < Columns.total (viewer.widths ++ [squares]) := by
  have hmap : (browse "" none (.grid 1 3) [] 30 6 [.moveRight]).map
      (fun viewer => (viewer.shown.getLast?, viewer.offsetColumn)) = .ok (some 2, 1) := by cbv
  obtain ⟨viewer, h, hvalues⟩ := map_eq_ok_iff.mp hmap
  obtain ⟨hlast, hoffset⟩ := Prod.mk.inj hvalues
  obtain ⟨squares, hsquares, -, hiff⟩ := next_column_too_wide_iff h hlast (by decide)
  refine ⟨viewer, h, hlast, by decide, squares, hsquares, hiff.mpr ?_⟩
  rw [hoffset]
  rintro ⟨count, hmore, hle, htotal⟩
  have hcount : count = 2 ∨ count = 3 := by
    have hcolumns : (Source.grid 1 3).columnCount = 3 := rfl
    omega
  rcases hcount with rfl | rfl
  · exact absurd htotal (by decide)
  · exact absurd htotal (by decide)

/-- A screen on which three columns would have all their squares shows only two of them. -/
theorem exact_fit_left_out :
    ∃ viewer, browse "" none (.grid 1 2) [] 26 3 [] = .ok viewer ∧
      viewer.shown.getLast? = some 1 ∧ (Source.grid 1 2).columnWidth 2 = .ok 8 ∧
      ¬26 < Columns.total (viewer.widths ++ [8]) ∧
      Columns.areas 26 (viewer.widths ++ [8]) = [⟨0, 8⟩, ⟨9, 17⟩, ⟨18, 26⟩] := by
  have hmap : (browse "" none (.grid 1 2) [] 26 3 []).map
      (fun viewer => (viewer.shown.getLast?, viewer.widths)) = .ok (some 1, [8, 8]) := by cbv
  obtain ⟨viewer, h, hvalues⟩ := map_eq_ok_iff.mp hmap
  obtain ⟨hlast, hwidths⟩ := Prod.mk.inj hvalues
  refine ⟨viewer, h, hlast, rfl, ?_, ?_⟩
  · rw [hwidths]
    decide
  · rw [hwidths]
    decide

end Viewer

end AttributeBrowser
