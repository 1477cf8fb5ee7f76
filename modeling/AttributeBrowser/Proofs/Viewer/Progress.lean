import AttributeBrowser.Proofs.Viewer.Columns

/-!
# When the window can be shown

A viewer asks a source only for rows and columns that it has. So with a source that
answers for all of these (`Source.Complete`), showing the window stops for one reason
only: the end of the window, or the row of the cursor, is no count. Scrolling to the
cursor column then always answers, since the window does not pass the cursor. All this
needs a screen on which the widths of the columns laid out cannot add up to more than a
count.
-/

namespace AttributeBrowser

namespace Source

/-- Widths of columns are below this bound, `2 ^ 16`. -/
def widthLimit : Nat := 0x10000

/-- The source answers for the rows and columns that it has. It may refuse any other. -/
structure Answers (source : Source) : Prop where
  values : ∀ row < source.rowCount, ∀ column < source.columnCount,
    ∃ cell, source.valueAt row column = .ok cell
  names : ∀ column < source.columnCount, ∃ name, source.columnName column = .ok name
  types : ∀ column < source.columnCount, ∃ type, source.columnType column = .ok type
  widths : ∀ column ≤ source.columnCount,
    ∃ width, source.columnWidth column = .ok width ∧ width < widthLimit
  links : ∀ row < source.rowCount, ∀ column < source.columnCount,
    ∃ target, source.linkTarget row column = .ok target

/-- There is room for the row numbers and the cells too, and the columns of the table are
a count. -/
structure Complete (source : Source) : Prop extends Answers source where
  numbered : source.rowCount < RowNumbers.capacity
  fitsMemo : source.FitsMemo
  counted : source.columnCount + 1 < Size.limit

theorem answers_grid (rows columns : Nat) : (grid rows columns).Answers where
  values _ _ _ _ := ⟨_, rfl⟩
  names _ _ := ⟨_, rfl⟩
  types _ _ := ⟨_, rfl⟩
  widths _ _ := ⟨8, rfl, by decide⟩
  links _ _ _ _ := ⟨none, rfl⟩

end Source

namespace TableView

variable {view : TableView}

theorem Faithful.exists_cell (hf : Faithful view) (hc : view.source.Complete)
    (numbers : RowNumbers) {row column : Nat} (hrow : row < view.source.rowCount)
    (hcolumn : column ≤ view.source.columnCount) :
    ∃ cell next, view.cell numbers row column = (.ok cell, next) := by
  cases column with
  | zero => exact ⟨_, _, rfl⟩
  | succ column =>
    obtain ⟨cell, hvalue⟩ := hc.values row hrow column hcolumn
    have hanswer := ((asks_sourceCell view row column).answer hf).1 hc.fitsMemo
    exact ⟨cell, _, Prod.ext (hanswer.trans hvalue) rfl⟩

theorem exists_follow {σ : Type} (ha : view.source.Answers) (navigate : LinkTarget → σ → σ)
    (state : σ) {row column : Nat} (hrow : row < view.source.rowCount)
    (hcolumn : column ≤ view.source.columnCount) :
    ∃ answer, view.follow navigate row column state = .ok answer := by
  cases column with
  | zero => exact ⟨_, rfl⟩
  | succ column =>
    obtain ⟨target, htarget⟩ := ha.links row hrow column hcolumn
    simp only [follow, htarget]
    cases target with
    | none => exact ⟨_, rfl⟩
    | some target => exact ⟨_, rfl⟩

theorem exists_columnName (ha : view.source.Answers) {column : Nat}
    (hcolumn : column ≤ view.source.columnCount) : ∃ name, view.columnName column = .ok name := by
  cases column with
  | zero => exact ⟨_, rfl⟩
  | succ column => exact ha.names column hcolumn

theorem exists_columnType (ha : view.source.Answers) {column : Nat}
    (hcolumn : column ≤ view.source.columnCount) : ∃ type, view.columnType column = .ok type := by
  cases column with
  | zero => exact ⟨_, rfl⟩
  | succ column => exact ha.types column hcolumn

theorem Faithful.exists_texts (hf : Faithful view) (hc : view.source.Complete)
    (numbers : RowNumbers) {places : List (Nat × Nat)}
    (hin : ∀ place ∈ places,
      place.1 < view.source.rowCount ∧ place.2 ≤ view.source.columnCount) :
    ∃ answers next, texts numbers places view = (.ok answers, next) := by
  induction places generalizing view with
  | nil => exact ⟨[], view, rfl⟩
  | cons place rest ih =>
    obtain ⟨row, column⟩ := place
    obtain ⟨hrow, hcolumn⟩ := hin (row, column) (by simp)
    obtain ⟨cell, middle, hcell⟩ := hf.exists_cell hc numbers hrow hcolumn
    obtain ⟨hf', hx⟩ := hf.after_cell numbers row column
    rw [hcell] at hf' hx
    obtain ⟨answers, next, hrest⟩ := ih hf' (hx.source ▸ hc) (by
      intro place hplace
      rw [hx.source]
      exact hin place (by simp [hplace]))
    exact ⟨cell.display :: answers, next, by simp only [texts, hcell, hrest]⟩

end TableView

namespace Viewer

variable {view : TableView} {source : Source} {viewer : Viewer}

/-! ## Showing the window -/

/-- Columns are laid out until the screen is full, so their widths do not add up to more
than one column beyond it. -/
theorem exists_columnsFrom (ha : view.source.Answers) {width remaining column used : Nat}
    (hlast : column + remaining ≤ view.source.columnCount + 1)
    (hwidth : width + Source.widthLimit < Size.limit)
    (hused : used + Source.widthLimit < Size.limit) :
    ∃ columns, columnsFrom view width remaining column used = .ok columns := by
  induction remaining generalizing column used with
  | zero => exact ⟨[], rfl⟩
  | succ remaining ih =>
    obtain ⟨cells, hcells, hlimit⟩ := ha.widths column (by omega)
    have hsum : Size.add used (cells + 1) = .ok (used + (cells + 1)) :=
      Size.add_of_lt (by omega)
    -- a column that still fits leaves room for one more
    by_cases hfull : width < used + (cells + 1)
    · exact ⟨[], bind_eq_ok_iff.mpr ⟨cells, hcells, bind_eq_ok_iff.mpr ⟨_, hsum, if_pos hfull⟩⟩⟩
    · have hrest : ∃ columns,
          columnsFrom view width remaining (column + 1) (used + (cells + 1)) = .ok columns :=
        ih (by omega) (by omega)
      obtain ⟨columns, hcolumns⟩ := hrest
      refine ⟨column :: columns,
        bind_eq_ok_iff.mpr ⟨cells, hcells, bind_eq_ok_iff.mpr ⟨_, hsum, ?_⟩⟩⟩
      rw [if_neg hfull]
      exact bind_eq_ok_iff.mpr ⟨columns, hcolumns, rfl⟩

theorem exists_layout (hc : view.source.Complete) {width : Nat}
    (hwidth : width + Source.widthLimit < Size.limit) (offset : Nat) :
    ∃ shown, layout view width offset = .ok shown := by
  obtain ⟨cells, hcells, hlimit⟩ := hc.widths 0 (Nat.zero_le _)
  have hcount := columnCount_eq_ok_iff.mpr ⟨hc.counted, rfl⟩
  by_cases hbehind : view.source.columnCount + 1 ≤ offset
  · exact ⟨[0], bind_eq_ok_iff.mpr ⟨cells, hcells,
      bind_eq_ok_iff.mpr ⟨_, hcount, if_pos hbehind⟩⟩⟩
  · obtain ⟨first, hfirst, hlimit'⟩ := hc.widths offset (by omega)
    have hroom : 3 * Source.widthLimit < Size.limit := by decide
    have hrest : ∃ columns,
        columnsFrom view width (view.source.columnCount + 1 - (offset + 1)) (offset + 1)
          (cells + 1 + (first + 1)) = .ok columns :=
      exists_columnsFrom hc.toAnswers (by omega) hwidth (by omega)
    obtain ⟨columns, hcolumns⟩ := hrest
    refine ⟨0 :: offset :: columns, bind_eq_ok_iff.mpr ⟨cells, hcells,
      bind_eq_ok_iff.mpr ⟨_, hcount, ?_⟩⟩⟩
    rw [if_neg hbehind]
    exact bind_eq_ok_iff.mpr ⟨first, hfirst, bind_eq_ok_iff.mpr ⟨_, Size.add_of_lt (by omega),
      bind_eq_ok_iff.mpr ⟨columns, hcolumns, rfl⟩⟩⟩

/-- Columns that are together wider than any count are not laid out on the widest screen. -/
theorem columnsFrom_overflow {width remaining column used cells : Nat}
    (hcells : ∀ column, view.columnWidth column = .ok cells) (hwidth : Size.limit ≤ width + 1)
    (hover : Size.limit ≤ used + remaining * (cells + 1)) (hused : used < Size.limit) :
    columnsFrom view width remaining column used = .error .overflow := by
  induction remaining generalizing column used with
  | zero => omega
  | succ remaining ih =>
    rw [Nat.add_mul, Nat.one_mul] at hover
    simp only [columnsFrom, hcells, bind, Except.bind]
    by_cases hsum : used + (cells + 1) < Size.limit
    · rw [Size.add_of_lt hsum]
      simp only
      rw [if_neg (by omega), ih (by omega) hsum]
    · rw [Size.add, if_neg hsum]

/-- So the screen has to be narrower than that for every layout to be answered. -/
theorem layout_overflow {width offset cells : Nat}
    (hcells : ∀ column, view.columnWidth column = .ok cells)
    (hcount : view.source.columnCount + 1 < Size.limit) (hoffset : offset ≤ view.source.columnCount)
    (hwidth : Size.limit ≤ width + 1)
    (hover : Size.limit ≤
      cells + 1 + (cells + 1) + (view.source.columnCount - offset) * (cells + 1)) :
    layout view width offset = .error .overflow := by
  simp only [layout, hcells, columnCount_eq_ok_iff.mpr ⟨hcount, rfl⟩, bind, Except.bind]
  rw [if_neg (Nat.not_le_of_lt (Nat.lt_succ_of_le hoffset)), Nat.add_sub_add_right]
  by_cases hsum : cells + 1 + (cells + 1) < Size.limit
  · rw [Size.add_of_lt hsum]
    simp only
    rw [columnsFrom_overflow hcells hwidth hover hsum]
  · rw [Size.add, if_neg hsum]

theorem exists_showColumn (hf : view.Faithful) (hc : view.source.Complete) (numbers : RowNumbers)
    {rows : List Nat} {column : Nat} (hrows : ∀ row ∈ rows, row < view.source.rowCount)
    (hcolumn : column ≤ view.source.columnCount) :
    ∃ shown next, showColumn numbers rows view column = .ok (shown, next) ∧ next.Faithful ∧
      next.source = view.source := by
  have hin : ∀ place ∈ rows.map (·, column),
      place.1 < view.source.rowCount ∧ place.2 ≤ view.source.columnCount := by
    intro place hplace
    obtain ⟨row, hrow, rfl⟩ := List.mem_map.mp hplace
    exact ⟨hrows row hrow, hcolumn⟩
  obtain ⟨texts, next, htexts⟩ := hf.exists_texts hc numbers hin
  obtain ⟨hf', hx, -⟩ := hf.holds_texts htexts hin
  have hsource := hx.source
  rw [← hsource] at hc hcolumn
  obtain ⟨name, hname⟩ := TableView.exists_columnName hc.toAnswers hcolumn
  obtain ⟨type, htype⟩ := TableView.exists_columnType hc.toAnswers hcolumn
  obtain ⟨width, hwidth, -⟩ := hc.widths column hcolumn
  exact ⟨⟨name, width, type, texts⟩, next,
    showColumn_eq_ok_iff.mpr ⟨htexts, hname, hwidth, htype⟩, hf', hsource⟩

theorem exists_showColumns (hf : view.Faithful) (hc : view.source.Complete) (numbers : RowNumbers)
    {rows columns : List Nat} (hrows : ∀ row ∈ rows, row < view.source.rowCount)
    (hcolumns : ∀ column ∈ columns, column ≤ view.source.columnCount) :
    ∃ shown next, showColumns numbers rows columns view = .ok (shown, next) := by
  induction columns generalizing view with
  | nil => exact ⟨[], view, rfl⟩
  | cons column rest ih =>
    obtain ⟨first, middle, hfirst, hf', hsource⟩ :=
      exists_showColumn hf hc numbers hrows (hcolumns column (by simp))
    rw [← hsource] at hc hrows hcolumns
    obtain ⟨others, next, hrest⟩ :=
      ih hf' hc hrows fun column hmem => hcolumns column (by simp [hmem])
    exact ⟨first :: others, next, bind_eq_ok_iff.mpr ⟨(first, middle), hfirst,
      bind_eq_ok_iff.mpr ⟨(others, next), hrest, rfl⟩⟩⟩

/-- **Showing the window** answers exactly if its end is a count, as long as the cursor is
in the table or right behind it. -/
theorem Sound.exists_refresh_iff (hs : Sound source viewer) (hc : source.Complete)
    (moved : Viewer) (htable : moved.table = viewer.table)
    (hnumbers : moved.numbers = viewer.numbers)
    (hrow : moved.rowWindow.selected ≤ source.rowCount)
    (hwidth : moved.width + Source.widthLimit < Size.limit) :
    (∃ next, moved.refresh = .ok next) ↔ moved.offsetRow + moved.height < Size.limit := by
  constructor
  · rintro ⟨next, hshow⟩
    exact bottom_lt_of_refresh hshow
  · intro hbottom
    obtain ⟨hsource, hf, -, -⟩ := hs.congr htable hnumbers
    have hselected : moved.offsetRow + moved.cursorRow < Size.limit := by
      have hroom : RowNumbers.capacity < Size.limit := by decide
      exact Nat.lt_trans (Nat.lt_of_le_of_lt hrow hc.numbered) hroom
    rw [← hsource] at hc
    obtain ⟨shown, hlayout⟩ := exists_layout hc hwidth moved.offsetColumn
    obtain ⟨-, hle⟩ := layout_eq_ok hlayout
    obtain ⟨columns, table, hcolumns⟩ :=
      exists_showColumns hf hc moved.numbers (fun _ => lt_of_mem_rowsShown) hle
    exact ⟨_, refresh_eq_ok_iff.mpr
      ⟨shown, columns, table, hlayout, hbottom, hcolumns, hselected, rfl⟩⟩

/-! ## Scrolling to the cursor column -/

/-- **Scrolling to the cursor column** answers: the window shows as many rows at every
pass, and is moved at most to the cursor column. -/
theorem Placed.exists_scrollToCursor (hp : Placed source viewer) (hs : Sound source viewer)
    (hc : Current viewer) (hcomplete : source.Complete)
    (hrow : viewer.rowWindow.selected ≤ source.rowCount)
    (hwidth : viewer.width + Source.widthLimit < Size.limit) :
    ∃ next, viewer.scrollToCursor = .ok next := by
  -- along the passes: each moves the window one column further, as long as the cursor is hidden
  induction viewer using scrollToCursor.induct with
  | case1 viewer ih =>
    have hcounted := hcomplete.counted
    rw [← hs.table] at hcounted
    by_cases hhidden : viewer.CursorHidden
    · have hmoved := hp.pass hs hc hhidden
      have hlimit : viewer.offsetColumn + 1 < Size.limit := by
        have hoffset := hmoved.offset
        have hcolumn := hhidden.1
        simp only at hoffset
        omega
      obtain ⟨middle, hshow⟩ :=
        (hs.exists_refresh_iff hcomplete { viewer with offsetColumn := viewer.offsetColumn + 1 }
          rfl rfl hrow hwidth).mpr hc.bottom
      obtain ⟨hs', hc'⟩ := hs.refresh hshow rfl rfl
      have hplace := samePlace_refresh hshow
      obtain ⟨next, hnext⟩ := ih 0 hlimit middle hshow (hmoved.refresh hshow) hs' hc'
        (hplace.rows ▸ hrow) (hplace.width ▸ hwidth)
      exact ⟨next, scrollToCursor_of_hidden hcounted hhidden hlimit hshow hnext⟩
    · exact ⟨viewer, scrollToCursor_of_not_hidden hcounted hhidden⟩

/-- A viewer that was just shown can be scrolled to the cursor column. -/
theorem Placed.exists_scrollToCursor_of_refresh {moved middle : Viewer}
    (hp : Placed source moved) (hs : Sound source viewer) (hcomplete : source.Complete)
    (hshow : moved.refresh = .ok middle) (htable : moved.table = viewer.table)
    (hnumbers : moved.numbers = viewer.numbers)
    (hrow : moved.rowWindow.selected ≤ source.rowCount)
    (hwidth : moved.width + Source.widthLimit < Size.limit) :
    ∃ next, middle.scrollToCursor = .ok next := by
  obtain ⟨hs', hc'⟩ := hs.refresh hshow htable hnumbers
  have hplace := samePlace_refresh hshow
  exact (hp.refresh hshow).exists_scrollToCursor hs' hc' hcomplete (hplace.rows ▸ hrow)
    (hplace.width ▸ hwidth)

/-- A resized viewer can be shown exactly if the end of the window is a count, also if it
has shown nothing yet. -/
theorem Placed.exists_resize_iff (hp : Placed source viewer) (hs : Sound source viewer)
    (hc : source.Complete) (hrow : viewer.rowWindow.selected ≤ source.rowCount)
    {width : Nat} (hwidth : width + Source.widthLimit < Size.limit) (height : Nat) :
    (∃ next, viewer.resize width height = .ok next) ↔
      (viewer.rowWindow.resize (height - frameHeight)).offset +
        (viewer.rowWindow.resize (height - frameHeight)).height < Size.limit := by
  have hselected : (viewer.rowWindow.resize (height - frameHeight)).selected ≤ source.rowCount := by
    rw [RowWindow.selected_resize]
    exact hrow
  have hiff := hs.exists_refresh_iff hc
    { viewer.withRows (viewer.rowWindow.resize (height - frameHeight)) with width }
    rfl rfl hselected hwidth
  have hshown : (∃ middle, Viewer.refresh
      { viewer.withRows (viewer.rowWindow.resize (height - frameHeight)) with width } =
        .ok middle) ↔
      (viewer.rowWindow.resize (height - frameHeight)).offset +
        (viewer.rowWindow.resize (height - frameHeight)).height < Size.limit :=
    hs.exists_refresh_iff hc _ rfl rfl hselected hwidth
  rw [← hshown]
  constructor
  · rintro ⟨next, h⟩
    obtain ⟨middle, hshow, -⟩ := resize_eq_ok_iff.mp h
    exact ⟨middle, hshow⟩
  · rintro ⟨middle, hshow⟩
    have hmoved : Placed source
        { viewer.withRows (viewer.rowWindow.resize (height - frameHeight)) with width } :=
      hp.congr rfl rfl
    obtain ⟨next, hscroll⟩ :=
      hmoved.exists_scrollToCursor_of_refresh hs hc hshow rfl rfl hselected hwidth
    exact ⟨next, resize_eq_ok_iff.mpr ⟨middle, hshow, hscroll⟩⟩

end Viewer

end AttributeBrowser
