import AttributeBrowser.Proofs.Table.Calls
import AttributeBrowser.Proofs.Viewer.Ready
import AttributeBrowser.Proofs.Viewer.Selection

/-!
# Which cells a message computes

Showing the window computes the cells in it that were not remembered, and no other. A
message other than copying therefore computes the cells of the window that it leaves, and
those that the column scroll passes on its way to the cursor column: every pass shows all
rows of the window.
-/

namespace AttributeBrowser

namespace TableView

variable {view next : TableView} {numbers : RowNumbers} {row column : Nat}

/-- The view remembers what it asked for, cell by cell, and nothing else. -/
structure RemembersAsked (view : TableView) : Prop where
  faithful : view.Faithful
  asked : ∀ place : Nat × Nat,
    (view.remembered place.1 place.2).isSome = true ↔ place ∈ view.asked

theorem RemembersAsked.fresh (source : Source) : RemembersAsked { source } where
  faithful := .fresh source
  asked := by
    intro place
    simp [TableView.remembered]

/-- **An answered request** adds the cell of the source to those asked for, and no other. -/
theorem RemembersAsked.cell (h : RemembersAsked view) {answer : Cell}
    (hcell : view.cell numbers row column = (.ok answer, next))
    (hrow : row < view.source.rowCount) (hcolumn : column ≤ view.source.columnCount) :
    RemembersAsked next ∧ next.source = view.source ∧ ∀ place : Nat × Nat,
      place ∈ next.asked ↔ place ∈ view.asked ∨ (place.1, place.2 + 1) = (row, column) := by
  cases column with
  | zero =>
    cases hcell
    exact ⟨h, rfl, by simp⟩
  | succ column =>
    have hasks : Asks view row column (.ok answer) next := .of_eq hcell
    have hok : (view.cell numbers row (column + 1)).1.isOk = true := by
      rw [hcell]
      rfl
    obtain ⟨hfits, hvalue⟩ := (h.faithful.isOk_cell numbers row column).mp hok
    have hhas : view.source.HasCell (row, column) := ⟨hrow, hcolumn, hvalue⟩
    have hadded : ∀ place : Nat × Nat,
        place ∈ next.asked ↔ place ∈ view.asked ∨ place = (row, column) := by
      intro place
      rw [hasks.asked_eq h.faithful]
      split
      · rw [List.mem_cons, or_comm]
      · -- what is remembered was asked for
        rename_i hremembered
        have hmem : (row, column) ∈ view.asked := by
          refine (h.asked (row, column)).mp (Option.isSome_iff_ne_none.mpr fun hnone => ?_)
          exact hremembered ⟨hfits, hnone⟩
        constructor
        · exact .inl
        · rintro (hplace | rfl)
          · exact hplace
          · exact hmem
    refine ⟨⟨hasks.faithful h.faithful, fun place => ?_⟩, hasks.extends.source, fun place => ?_⟩
    · rw [hasks.isSome_remembered h.faithful, h.asked, hadded]
      simp [hfits, hhas]
    · rw [hadded]
      simp [Prod.ext_iff]

/-- A held cell of the source was asked for. -/
theorem RemembersAsked.mem_of_holds (h : RemembersAsked view) {text : String}
    (hholds : view.Holds numbers row (column + 1) text) : (row, column) ∈ view.asked := by
  obtain ⟨cell, hcell, -⟩ := hholds
  refine (h.asked (row, column)).mp ?_
  rw [hcell]
  rfl

end TableView

namespace Viewer

variable {source : Source} {viewer next middle : Viewer} {message : Message}

/-! ## The cells of a window -/

/-- The window displays a cell of the source: its column is shown, and its row is one of
those that the column has texts for. -/
def Displays (viewer : Viewer) (place : Nat × Nat) : Prop :=
  ∃ (position : Nat) (column : ShownColumn),
    viewer.shown[position]? = some (place.2 + 1) ∧
    viewer.window.columns[position]? = some column ∧
    viewer.offsetRow ≤ place.1 ∧ place.1 < viewer.offsetRow + column.texts.length

/-- The cell is at a row and a column that are shown. -/
def InWindow (viewer : Viewer) (place : Nat × Nat) : Prop :=
  place.1 ∈ viewer.rowsShown ∧ place.2 + 1 ∈ viewer.shown

theorem mem_rowsShown {row : Nat} : row ∈ viewer.rowsShown ↔
    viewer.offsetRow ≤ row ∧ row < viewer.offsetRow + viewer.height ∧
      row < viewer.table.source.rowCount := by
  simp only [rowsShown, List.mem_range'_1, shownRows, TableView.rowCount]
  omega

theorem rowsShown_congr (hrows : next.rowWindow = viewer.rowWindow)
    (hsource : next.table.source = viewer.table.source) : next.rowsShown = viewer.rowsShown := by
  have hoffset : next.offsetRow = viewer.offsetRow := congrArg RowWindow.offset hrows
  have hheight : next.height = viewer.height := congrArg RowWindow.height hrows
  simp only [rowsShown, shownRows, TableView.rowCount, hoffset, hheight, hsource]

theorem Exact.displays_iff (h : Exact source viewer) (place : Nat × Nat) :
    viewer.Displays place ↔ viewer.InWindow place := by
  have hlength := h.columns.length_eq
  have hrow : ∀ column : ShownColumn, column ∈ viewer.window.columns →
      (viewer.offsetRow ≤ place.1 ∧ place.1 < viewer.offsetRow + column.texts.length ↔
        place.1 ∈ viewer.rowsShown) := by
    intro column hcolumn
    rw [rowsShown, List.mem_range'_1, h.length_texts column hcolumn]
  constructor
  · rintro ⟨position, column, hshown, hcolumn, hplace⟩
    exact ⟨(hrow column (List.mem_of_getElem? hcolumn)).mp hplace, List.mem_of_getElem? hshown⟩
  · rintro ⟨hplace, hshown⟩
    obtain ⟨position, hposition, hat⟩ := List.getElem_of_mem hshown
    have hcolumn : viewer.window.columns[position]? = some _ :=
      List.getElem?_eq_getElem (hlength ▸ hposition)
    refine ⟨position, _, ?_, hcolumn, (hrow _ (List.mem_of_getElem? hcolumn)).mpr hplace⟩
    rw [List.getElem?_eq_getElem hposition, hat]

/-- The cells in a current window are held. -/
theorem Current.exists_holds (hc : Current viewer) {place : Nat × Nat}
    (hplace : viewer.InWindow place) :
    ∃ text, viewer.table.Holds viewer.numbers place.1 (place.2 + 1) text := by
  obtain ⟨hrow, hcolumn⟩ := hplace
  obtain ⟨position, hposition, hat⟩ := List.getElem_of_mem hcolumn
  have hshows := hc.columns.get hposition (hc.columns.length_eq ▸ hposition)
  obtain ⟨i, hi, hat'⟩ := List.getElem_of_mem hrow
  have hholds := hshows.texts.get hi (hshows.texts.length_eq ▸ hi)
  simp only [List.get_eq_getElem, hat, hat'] at hholds
  exact ⟨_, hholds⟩

/-- The cells in a current window were asked for. -/
theorem Current.mem_asked (hc : Current viewer) (ha : viewer.table.RemembersAsked)
    {place : Nat × Nat} (hplace : viewer.InWindow place) : place ∈ viewer.table.asked := by
  obtain ⟨text, hholds⟩ := hc.exists_holds hplace
  exact ha.mem_of_holds hholds

/-- **Showing the window** asks for the cells in it, and for no other. -/
theorem Sound.asked_refresh {moved : Viewer} (hs : Sound source viewer)
    (ha : viewer.table.RemembersAsked) (h : moved.refresh = .ok next)
    (htable : moved.table = viewer.table) (hnumbers : moved.numbers = viewer.numbers) :
    next.table.RemembersAsked ∧
      ∀ place, place ∈ next.table.asked ↔ place ∈ viewer.table.asked ∨ next.InWindow place := by
  obtain ⟨hs', hc'⟩ := hs.refresh h htable hnumbers
  have hsource : moved.table.source = source := (hs.congr htable hnumbers).table
  rw [← htable] at ha ⊢
  obtain ⟨shown, columns, table, hlayout, -, hcolumns, -, rfl⟩ := refresh_eq_ok_iff.mp h
  obtain ⟨-, hle⟩ := layout_eq_ok hlayout
  have hrows : (moved.showing shown columns table).rowsShown = moved.rowsShown :=
    rowsShown_congr rfl (hs'.table.trans hsource.symm)
  obtain ⟨-, ha', hforth, hback⟩ := showColumns_keeps
    (P := fun view => view.source = source ∧ view.RemembersAsked ∧
      (∀ place ∈ view.asked,
        place ∈ moved.table.asked ∨ place.1 ∈ moved.rowsShown ∧ place.2 + 1 ∈ shown) ∧
      ∀ place ∈ moved.table.asked, place ∈ view.asked)
    (S := fun place => place.1 ∈ moved.rowsShown ∧ place.2 ∈ shown) (by
      rintro view next row column cell ⟨hview, hasked, hforth, hback⟩ ⟨hrow, hcolumn⟩ hcell
      have hlt := lt_of_mem_rowsShown hrow
      have hlast := hle column hcolumn
      rw [hsource, ← hview] at hlt hlast
      obtain ⟨hasked', hnext, hadded⟩ := hasked.cell hcell hlt hlast
      refine ⟨hnext.trans hview, hasked', fun place hplace => ?_, fun place hplace => ?_⟩
      · rcases (hadded place).mp hplace with hold | hnew
        · exact hforth place hold
        · obtain ⟨rfl, rfl⟩ := Prod.mk.inj hnew
          exact .inr ⟨hrow, hcolumn⟩
      · exact (hadded place).mpr (.inl (hback place hplace)))
    ⟨hsource, ha, fun _ => .inl, fun _ => id⟩ hcolumns
    (fun row hrow column hcolumn => ⟨hrow, hcolumn⟩)
  refine ⟨ha', fun place => ⟨fun hplace => ?_, ?_⟩⟩
  · rw [InWindow, hrows]
    exact hforth place hplace
  · rintro (hold | hnew)
    · exact hback place hold
    · exact hc'.mem_asked ha' hnew

/-! ## Scrolling to the cursor column -/

/-- The cell is at a row that is shown now and in a column that the window was moved past. -/
def PassesBy (viewer next : Viewer) (place : Nat × Nat) : Prop :=
  place.1 ∈ next.rowsShown ∧ viewer.offsetColumn ≤ place.2 + 1 ∧ place.2 + 1 < next.offsetColumn

/-- A viewer on its way from the column `first` to its cursor column: what it asked for
beyond `before` are cells of the rows it shows, and those of the columns passed are
among them. -/
structure Scrolls (source : Source) (before : List (Nat × Nat)) (first : Nat) (rows : List Nat)
    (viewer : Viewer) : Prop where
  sound : Sound source viewer
  current : Current viewer
  placed : Placed source viewer
  remembers : viewer.table.RemembersAsked
  rows_eq : viewer.rowsShown = rows
  first_le : first ≤ viewer.offsetColumn
  asked : ∀ place ∈ viewer.table.asked, place ∈ before ∨ place.1 ∈ rows ∧
    first ≤ place.2 + 1 ∧ (place.2 + 1 < viewer.cursorColumn ∨ place.2 + 1 ∈ viewer.shown)
  kept : ∀ place ∈ before, place ∈ viewer.table.asked
  passed : ∀ place, place.1 ∈ rows → first ≤ place.2 + 1 → place.2 + 1 < viewer.offsetColumn →
    place ∈ viewer.table.asked

/-- A column of the source that is shown is not in front of the first one. -/
theorem Placed.offset_le (hp : Placed source viewer) (hs : Sound source viewer)
    (hc : Current viewer) {column : Nat} (hcolumn : column + 1 ∈ viewer.shown) :
    viewer.offsetColumn ≤ column + 1 := by
  have hlast := (layout_eq_ok hc.layout).2 _ hcolumn
  by_cases hcursor : viewer.cursorColumn ≤ source.columnCount
  · exact (((hp.laidOut hs hc hcursor).mem_iff (Nat.le_add_left 1 _)).mp hcolumn).1
  · -- the source has no columns, and the table shows the row numbers alone
    have hle := hp.last
    rw [hs.table] at hlast
    omega

/-- Columns behind a cursor column that is hidden are not shown. -/
theorem Placed.lt_of_hidden (hp : Placed source viewer) (hs : Sound source viewer)
    (hc : Current viewer) (hhidden : viewer.CursorHidden) {column : Nat}
    (hcolumn : column + 1 ∈ viewer.shown) : column + 1 < viewer.cursorColumn := by
  obtain ⟨hcursor, hmem⟩ := hhidden
  rw [hs.table] at hcursor
  have hlaid := hp.laidOut hs hc hcursor
  have hfirst := hp.first
  have hoffset := hp.offset
  rw [hlaid.mem_iff (by omega)] at hcolumn hmem
  omega

/-- A pass shows the rows again, without the column that was the first one. -/
theorem Scrolls.pass {before : List (Nat × Nat)} {first : Nat} {rows : List Nat}
    (h : Scrolls source before first rows viewer) (hhidden : viewer.CursorHidden)
    (hshow : Viewer.refresh { viewer with offsetColumn := viewer.offsetColumn + 1 } = .ok next) :
    Scrolls source before first rows next := by
  obtain ⟨hs', hc'⟩ := h.sound.refresh hshow rfl rfl
  obtain ⟨ha', hasked⟩ := h.sound.asked_refresh h.remembers hshow rfl rfl
  have hp' := (h.placed.pass h.sound h.current hhidden).refresh hshow
  have hplace := samePlace_refresh hshow
  have hcursor : next.cursorColumn = viewer.cursorColumn := hplace.cursorColumn
  have hoffset : next.offsetColumn = viewer.offsetColumn + 1 := (refresh_offsetColumn hshow :)
  have hrows : next.rowsShown = rows :=
    (rowsShown_congr hplace.rows (hs'.table.trans h.sound.table.symm)).trans h.rows_eq
  have hfirst := h.first_le
  refine ⟨hs', hc', hp', ha', hrows, by omega, fun place hplace => ?_, fun place hplace => ?_,
    fun place hrow hle hlt => ?_⟩
  · rcases (hasked place).mp hplace with hold | ⟨hrow, hcolumn⟩
    · rcases h.asked place hold with hold | ⟨hrow, hle, hlt | hcolumn⟩
      · exact .inl hold
      · exact .inr ⟨hrow, hle, .inl (hcursor ▸ hlt)⟩
      · -- it was shown while the cursor column was not
        have hlt := h.placed.lt_of_hidden h.sound h.current hhidden hcolumn
        exact .inr ⟨hrow, hle, .inl (hcursor ▸ hlt)⟩
    · have hle := hp'.offset_le hs' hc' hcolumn
      exact .inr ⟨hrows ▸ hrow, by omega, .inr hcolumn⟩
  · exact (hasked place).mpr (.inl (h.kept place hplace))
  · refine (hasked place).mpr (.inl ?_)
    by_cases hpassed : place.2 + 1 < viewer.offsetColumn
    · exact h.passed place hrow hle hpassed
    · -- the column passed now was the first one shown
      obtain ⟨hcolumn, hmem⟩ := hhidden
      have hlaid := h.placed.laidOut h.sound h.current (h.sound.table ▸ hcolumn)
      obtain ⟨count, hcount, -, hshown⟩ := hlaid
      refine h.current.mem_asked h.remembers ⟨h.rows_eq ▸ hrow, ?_⟩
      rw [hshown, show place.2 + 1 = viewer.offsetColumn from by omega]
      simp [List.mem_range'_1, hcount]

/-- **Scrolling to the cursor column** asks for the rows of the window in the columns that it
passes and in those it ends with. -/
theorem Scrolls.scrollToCursor {before : List (Nat × Nat)} {first : Nat} {rows : List Nat}
    (h : Scrolls source before first rows viewer) (hscroll : viewer.scrollToCursor = .ok next) :
    next.table.RemembersAsked ∧ ∀ place, place ∈ next.table.asked ↔
      place ∈ before ∨ next.InWindow place ∨
        (place.1 ∈ next.rowsShown ∧ first ≤ place.2 + 1 ∧ place.2 + 1 < next.offsetColumn) := by
  obtain ⟨h', hshown⟩ := scrollToCursor_while_induct (P := Scrolls source before first rows)
    (fun _ _ hmiddle hhidden hshow => hmiddle.pass hhidden hshow) hscroll h
  refine ⟨h'.remembers, fun place => ⟨fun hplace => ?_, ?_⟩⟩
  · rcases h'.asked place hplace with hold | ⟨hrow, hle, hlt | hcolumn⟩
    · exact .inl hold
    · rw [← h'.rows_eq] at hrow
      by_cases hpassed : place.2 + 1 < next.offsetColumn
      · exact .inr (.inr ⟨hrow, hle, hpassed⟩)
      · -- a column between the first one shown and the cursor column is shown
        have hlast := h'.placed.last
        have hcursor : next.cursorColumn ≤ source.columnCount := by omega
        have hmem : next.cursorColumn ∈ next.shown := Decidable.byContradiction fun hhidden =>
          hshown ⟨h'.sound.table ▸ hcursor, hhidden⟩
        have hlaid := h'.placed.laidOut h'.sound h'.current hcursor
        rw [hlaid.mem_iff (by omega)] at hmem
        exact .inr (.inl ⟨hrow, (hlaid.mem_iff (by omega)).mpr (by omega)⟩)
    · exact .inr (.inl ⟨h'.rows_eq ▸ hrow, hcolumn⟩)
  · rintro (hold | hnew | ⟨hrow, hle, hlt⟩)
    · exact h'.kept place hold
    · exact h'.current.mem_asked h'.remembers hnew
    · exact h'.passed place (h'.rows_eq ▸ hrow) hle hlt

/-- A viewer that is shown anew and scrolled asks for the cells it shows then, and for those
it passes. -/
theorem Sound.asked_scroll {moved : Viewer} (hs : Sound source viewer)
    (ha : viewer.table.RemembersAsked) (hp : Placed source moved)
    (hshow : moved.refresh = .ok middle) (htable : moved.table = viewer.table)
    (hnumbers : moved.numbers = viewer.numbers) (hscroll : middle.scrollToCursor = .ok next) :
    next.table.RemembersAsked ∧ ∀ place, place ∈ next.table.asked ↔
      place ∈ viewer.table.asked ∨ next.InWindow place ∨ PassesBy moved next place := by
  obtain ⟨hs', hc'⟩ := hs.refresh hshow htable hnumbers
  obtain ⟨ha', hasked⟩ := hs.asked_refresh ha hshow htable hnumbers
  have hp' := hp.refresh hshow
  have hoffset := refresh_offsetColumn hshow
  have hstart : Scrolls source viewer.table.asked moved.offsetColumn middle.rowsShown middle := by
    refine ⟨hs', hc', hp', ha', rfl, Nat.le_of_eq hoffset.symm, fun place hplace => ?_,
      fun place hplace => (hasked place).mpr (.inl hplace), fun place _ hle hlt => ?_⟩
    · rcases (hasked place).mp hplace with hold | ⟨hrow, hcolumn⟩
      · exact .inl hold
      · exact .inr ⟨hrow, hoffset ▸ hp'.offset_le hs' hc' hcolumn, .inr hcolumn⟩
    · -- no column is passed yet
      omega
  exact hstart.scrollToCursor hscroll

/-! ## One message -/

/-- A resized viewer, also one that has shown nothing yet, asks for the cells it shows then,
and for those it passes. -/
theorem Placed.asked_resize {width height : Nat} (hp : Placed source viewer)
    (hs : Sound source viewer) (ha : viewer.table.RemembersAsked)
    (h : Step viewer (.resize width height) next) :
    next.table.RemembersAsked ∧ ∀ place, place ∈ next.table.asked ↔
      place ∈ viewer.table.asked ∨ next.InWindow place ∨ PassesBy viewer next place := by
  obtain ⟨middle, hshow, hscroll⟩ := h.exists_of_resize
  have hmoved : Placed source
      { viewer.withRows (viewer.rowWindow.resize (height - frameHeight)) with width } :=
    hp.congr rfl rfl
  have hasked := hs.asked_scroll ha hmoved hshow rfl rfl hscroll
  exact hasked

theorem not_passesBy (hoffset : next.offsetColumn ≤ viewer.offsetColumn) (place : Nat × Nat) :
    ¬PassesBy viewer next place := by
  rintro ⟨-, hle, hlt⟩
  omega

/-- A message that leaves the table and what is shown of it asks for nothing. -/
theorem Ready.asked_same (h : Ready source viewer) (ha : viewer.table.RemembersAsked)
    (htable : next.table = viewer.table) (hshown : next.shown = viewer.shown)
    (hrows : next.rowWindow = viewer.rowWindow)
    (hoffset : next.offsetColumn = viewer.offsetColumn) :
    next.table.RemembersAsked ∧ ∀ place, place ∈ next.table.asked ↔
      place ∈ viewer.table.asked ∨ next.InWindow place ∨ PassesBy viewer next place := by
  refine ⟨htable ▸ ha, fun place => ?_⟩
  have hsame : next.InWindow place ↔ viewer.InWindow place := by
    rw [InWindow, InWindow, hshown, rowsShown_congr hrows (congrArg TableView.source htable)]
  rw [htable, hsame]
  constructor
  · exact .inl
  · rintro (hold | hnew | hpass)
    · exact hold
    · exact h.current.mem_asked ha hnew
    · exact absurd hpass (not_passesBy (Nat.le_of_eq hoffset) place)

/-- **One message** other than copying asks for the cells that are shown then, and for those
that are passed. -/
theorem Ready.asked_step (h : Ready source viewer) (ha : viewer.table.RemembersAsked)
    (hstep : Step viewer message next) (hcopy : message ≠ .copyCell) :
    next.table.RemembersAsked ∧ ∀ place, place ∈ next.table.asked ↔
      place ∈ viewer.table.asked ∨ next.InWindow place ∨ PassesBy viewer next place := by
  cases hstep with
  | quit => exact h.asked_same ha rfl rfl rfl rfl
  | rows _ hshow =>
    obtain ⟨ha', hasked⟩ := h.sound.asked_refresh ha hshow rfl rfl
    have hoffset : next.offsetColumn = viewer.offsetColumn := (refresh_offsetColumn hshow :)
    refine ⟨ha', fun place => ?_⟩
    rw [hasked, or_iff_left (not_passesBy (Nat.le_of_eq hoffset) place)]
  | sameRows _ _ => exact h.asked_same ha rfl rfl rfl rfl
  | left _ hshow =>
    obtain ⟨ha', hasked⟩ := h.sound.asked_refresh ha hshow rfl rfl
    have hoffset : next.offsetColumn = min (viewer.cursorColumn - 1) viewer.offsetColumn :=
      (refresh_offsetColumn hshow :)
    refine ⟨ha', fun place => ?_⟩
    rw [hasked, or_iff_left (not_passesBy (hoffset ▸ Nat.min_le_right _ _) place)]
  | firstColumn _ => exact h.asked_same ha rfl rfl rfl rfl
  | right hcolumn hshow hscroll =>
    obtain ⟨hfirst, hle, -⟩ := h.cursor.toPlaced
    rw [h.sound.table] at hcolumn
    have hmoved : Placed source { viewer with cursorColumn := viewer.cursorColumn + 1 } :=
      ⟨hfirst, Nat.le_succ_of_le hle, Nat.le_trans hcolumn (Nat.le_max_left _ _)⟩
    have hasked := h.sound.asked_scroll ha hmoved hshow rfl rfl hscroll
    exact hasked
  | lastColumn _ => exact h.asked_same ha rfl rfl rfl rfl
  | follow _ _ => exact h.asked_same ha rfl rfl rfl rfl
  | copy _ _ _ => exact absurd rfl hcopy
  | noPlace _ _ => exact h.asked_same ha rfl rfl rfl rfl
  | resize hshow hscroll =>
    exact h.cursor.toPlaced.asked_resize h.sound ha (.resize hshow hscroll)

end Viewer

end AttributeBrowser
