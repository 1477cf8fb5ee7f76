import AttributeBrowser.Proofs.Viewer.Window

/-!
# The cursor column is always on screen

A layout is the row number column and then a run of consecutive columns from the first
column of the window on. As long as that column is not behind the cursor (`Placed`), the
cursor column is shown or can be scrolled to; scrolling stops only when it is shown, and
a move to the left goes back at most to the column before the first one shown. So the
cursor column is one of those shown after every message.
-/

namespace AttributeBrowser

namespace Viewer

variable {view : TableView} {viewer next : Viewer}

/-! ## Layouts -/

/-- The row numbers, and a run of at least one column of the table that begins at the first
column of the window. -/
def LaidOut (source : Source) (first : Nat) (shown : List Nat) : Prop :=
  ∃ count, 0 < count ∧ first + count ≤ source.columnCount + 1 ∧
    shown = 0 :: List.range' first count

theorem LaidOut.mem_iff {source : Source} {first column : Nat} {shown : List Nat}
    (h : LaidOut source first shown) (hcolumn : 1 ≤ column) :
    column ∈ shown ↔ first ≤ column ∧ column < first + (shown.length - 1) := by
  obtain ⟨count, -, -, rfl⟩ := h
  simp only [List.mem_cons, List.mem_range'_1, List.length_cons, List.length_range',
    Nat.add_sub_cancel]
  omega

theorem layout_laidOut {width first : Nat} {shown : List Nat}
    (h : layout view width first = .ok shown) (hfirst : first ≤ view.source.columnCount) :
    LaidOut view.source first shown := by
  obtain ⟨count, hfitted, rfl⟩ := layout_fitted h hfirst
  exact ⟨count, hfitted.pos, hfitted.last, rfl⟩

/-! ## The place of the cursor column -/

/-- The cursor is on a column of the source, or on the first place of a source without
columns, and at or behind the first column of the window. -/
structure Placed (source : Source) (viewer : Viewer) : Prop where
  first : 1 ≤ viewer.offsetColumn
  offset : viewer.offsetColumn ≤ viewer.cursorColumn
  last : viewer.cursorColumn ≤ max source.columnCount 1

/-- The cursor is placed, and its column is shown. -/
structure ShowsCursor (source : Source) (viewer : Viewer) : Prop extends Placed source viewer where
  mem : viewer.cursorColumn ≤ source.columnCount → viewer.cursorColumn ∈ viewer.shown

variable {source : Source}

theorem Placed.unshown (name : String) (clipboard : Option Clipboard) (source : Source)
    (numbers : RowNumbers) : Placed source (unshown name clipboard source numbers) :=
  ⟨Nat.le_refl 1, Nat.le_refl 1, Nat.le_max_right _ _⟩

theorem Placed.laidOut (hp : Placed source viewer) (hs : Sound source viewer)
    (hc : Current viewer) (hcolumn : viewer.cursorColumn ≤ source.columnCount) :
    LaidOut source viewer.offsetColumn viewer.shown := by
  have hoffset := hp.offset
  rw [← hs.table] at hcolumn ⊢
  exact layout_laidOut hc.layout (by omega)

theorem Placed.congr (hp : Placed source viewer) (hoffset : next.offsetColumn = viewer.offsetColumn)
    (hcursor : next.cursorColumn = viewer.cursorColumn) : Placed source next := by
  obtain ⟨hfirst, hle, hlast⟩ := hp
  constructor <;> omega

theorem Placed.refresh (hp : Placed source viewer) (h : viewer.refresh = .ok next) :
    Placed source next :=
  hp.congr (refresh_offsetColumn h) (samePlace_refresh h).cursorColumn

/-- A pass of the column scroll does not pass the cursor: the first column of the window is
always shown. -/
theorem Placed.pass (hp : Placed source viewer) (hs : Sound source viewer) (hc : Current viewer)
    (hhidden : viewer.CursorHidden) :
    Placed source { viewer with offsetColumn := viewer.offsetColumn + 1 } := by
  obtain ⟨hcolumn, hmem⟩ := hhidden
  rw [hs.table] at hcolumn
  have hne : viewer.offsetColumn ≠ viewer.cursorColumn := by
    intro heq
    obtain ⟨count, hcount, -, hshown⟩ := hp.laidOut hs hc hcolumn
    apply hmem
    rw [hshown, ← heq]
    simp [List.mem_range'_1, hcount]
  exact ⟨Nat.le_add_left 1 _, Nat.lt_of_le_of_ne hp.offset hne, hp.last⟩

/-- **Scrolling shows the cursor column.** -/
theorem Placed.scrollToCursor (hp : Placed source viewer) (hs : Sound source viewer)
    (hc : Current viewer) (h : viewer.scrollToCursor = .ok next) : ShowsCursor source next := by
  obtain ⟨⟨hs', -, hp'⟩, hshown⟩ := scrollToCursor_while_induct
    (P := fun viewer => Sound source viewer ∧ Current viewer ∧ Placed source viewer) (by
      intro middle last ⟨hs, hc, hp⟩ hhidden hshow
      obtain ⟨hs', hc'⟩ := hs.refresh hshow rfl rfl
      exact ⟨hs', hc', (hp.pass hs hc hhidden).refresh hshow⟩) h ⟨hs, hc, hp⟩
  refine ⟨hp', fun hcolumn => Decidable.byContradiction fun hhidden => hshown ⟨?_, hhidden⟩⟩
  rw [hs'.table]
  exact hcolumn

/-- The same columns are laid out as long as the first one and the width stay. -/
theorem Current.shown_eq (hc : Current viewer) (hs : Sound source viewer) (hc' : Current next)
    (hs' : Sound source next) (hwidth : next.width = viewer.width)
    (hoffset : next.offsetColumn = viewer.offsetColumn) : next.shown = viewer.shown := by
  have hlayout := hc'.layout_source hs'
  rw [hwidth, hoffset, hc.layout_source hs] at hlayout
  exact (Except.ok.inj hlayout).symm

/-- A resized viewer shows the cursor column, also one that has shown nothing yet. -/
theorem Placed.resize {width height : Nat} (hp : Placed source viewer) (hs : Sound source viewer)
    (h : Step viewer (.resize width height) next) : ShowsCursor source next := by
  obtain ⟨middle, hshow, hscroll⟩ := h.exists_of_resize
  obtain ⟨hs', hc'⟩ := hs.refresh hshow rfl rfl
  have hmoved : Placed source
      { viewer.withRows (viewer.rowWindow.resize (height - frameHeight)) with width } :=
    hp.congr rfl rfl
  exact (hmoved.refresh hshow).scrollToCursor hs' hc' hscroll

/-- **No message hides the cursor column.** -/
theorem ShowsCursor.step {message : Message} (hp : ShowsCursor source viewer)
    (hs : Sound source viewer) (hc : Current viewer) (h : Step viewer message next) :
    ShowsCursor source next := by
  cases h with
  | quit => exact ⟨hp.congr rfl rfl, hp.mem⟩
  | @rows message next _ hshow =>
    obtain ⟨hs', hc'⟩ := hs.refresh hshow rfl rfl
    have hwidth : next.width = viewer.width := (samePlace_refresh hshow).width
    have hoffset : next.offsetColumn = viewer.offsetColumn := (refresh_offsetColumn hshow :)
    have hcursor : next.cursorColumn = viewer.cursorColumn := (samePlace_refresh hshow).cursorColumn
    refine ⟨hp.congr hoffset hcursor, ?_⟩
    rw [hc.shown_eq hs hc' hs' hwidth hoffset, hcursor]
    exact hp.mem
  | sameRows _ _ => exact hp
  | left hcolumn hshow =>
    obtain ⟨hs', hc'⟩ := hs.refresh hshow rfl rfl
    have hwidth : next.width = viewer.width := (samePlace_refresh hshow).width
    have hcursor : next.cursorColumn = viewer.cursorColumn - 1 :=
      (samePlace_refresh hshow).cursorColumn
    have hoffset : next.offsetColumn = min (viewer.cursorColumn - 1) viewer.offsetColumn :=
      (refresh_offsetColumn hshow :)
    obtain ⟨hfirst, hle, hlast⟩ := hp.toPlaced
    have hplaced : Placed source next := by constructor <;> omega
    have hlaid := hplaced.laidOut hs' hc' (by omega)
    refine ⟨hplaced, fun _ => (hlaid.mem_iff (by omega)).mpr ⟨hplaced.offset, ?_⟩⟩
    by_cases hstays : viewer.offsetColumn ≤ viewer.cursorColumn - 1
    · -- the same columns are shown, and the cursor is not on the first of them
      have hsame : next.offsetColumn = viewer.offsetColumn := by omega
      have hlast' : viewer.cursorColumn ≤ source.columnCount := by omega
      rw [hc.shown_eq hs hc' hs' hwidth hsame, hsame, hcursor]
      have hold :=
        ((hp.toPlaced.laidOut hs hc hlast').mem_iff (by omega)).mp (hp.mem hlast')
      omega
    · -- the window moves to the left with the cursor, which is on its first column
      obtain ⟨count, hcount, -, hshown⟩ := hlaid
      rw [hshown, List.length_cons, List.length_range']
      omega
  | firstColumn _ => exact hp
  | right hcolumn hshow hscroll =>
    obtain ⟨hs', hc'⟩ := hs.refresh hshow rfl rfl
    obtain ⟨hfirst, hle, -⟩ := hp.toPlaced
    rw [hs.table] at hcolumn
    have hmoved : Placed source { viewer with cursorColumn := viewer.cursorColumn + 1 } :=
      ⟨hfirst, Nat.le_succ_of_le hle, Nat.le_trans hcolumn (Nat.le_max_left _ _)⟩
    exact (hmoved.refresh hshow).scrollToCursor hs' hc' hscroll
  | lastColumn _ => exact hp
  | follow _ _ => exact ⟨hp.congr rfl rfl, hp.mem⟩
  | copy _ _ _ => exact ⟨hp.congr rfl rfl, hp.mem⟩
  | noPlace _ _ => exact hp
  | resize hshow hscroll => exact hp.toPlaced.resize hs (.resize hshow hscroll)

/-! ## Runs -/

/-- Every viewer of a source that has been shown shows the cursor column, if there is one. -/
theorem showsCursor_browse {name : String} {clipboard : Option Clipboard} {earlier : List Nat}
    {width height : Nat} {messages : List Message}
    (h : browse name clipboard source earlier width height messages = .ok viewer) :
    Sound source viewer ∧ Current viewer ∧ ShowsCursor source viewer := by
  refine browse_current_induct (P := fun _ viewer => ShowsCursor source viewer) ?_ ?_ h
  · intro numbers first message hs hfirst
    have hshows := (Placed.unshown name clipboard source numbers).resize hs hfirst
    exact ⟨hshows.congr rfl rfl, hshows.mem⟩
  · intro messages viewer next message hs hc hp hnext
    exact hp.step hs hc hnext

/-- The cursor column is one of a run of columns that are shown behind the row numbers, and
it is the one that the window has selected. -/
structure CursorOnScreen (source : Source) (viewer : Viewer) : Prop where
  first : 1 ≤ viewer.offsetColumn
  offset : viewer.offsetColumn ≤ viewer.cursorColumn
  last : viewer.cursorColumn ≤ source.columnCount
  laidOut : LaidOut source viewer.offsetColumn viewer.shown
  mem : viewer.cursorColumn ∈ viewer.shown
  position : viewer.shown[viewer.window.selectedColumn]? = some viewer.cursorColumn
  notNumbers : 1 ≤ viewer.window.selectedColumn
  selected : viewer.window.selectedColumn < viewer.window.columns.length

theorem ShowsCursor.onScreen (hp : ShowsCursor source viewer) (hs : Sound source viewer)
    (hc : Current viewer) (hcolumn : viewer.cursorColumn ≤ source.columnCount) :
    CursorOnScreen source viewer := by
  have hexact := hc.exact hs
  have hlaid := hp.toPlaced.laidOut hs hc hcolumn
  have hmem := hp.mem hcolumn
  obtain ⟨position, hposition⟩ := Option.isSome_iff_exists.mp (List.isSome_idxOf?.mpr hmem)
  have hselected : viewer.window.selectedColumn = position := by
    rw [hexact.selectedColumn, hposition]
    rfl
  obtain ⟨hlt, hat, -⟩ := List.idxOf?_eq_some_iff.mp hposition
  refine ⟨hp.first, hp.offset, hcolumn, hlaid, hmem, ?_, ?_, ?_⟩
  · rw [hselected, List.getElem?_eq_getElem hlt, hat]
  · rw [hselected]
    -- the first column shown has the row numbers, and the cursor is never there
    apply Nat.pos_of_ne_zero
    rintro rfl
    obtain ⟨count, -, -, hshown⟩ := hlaid
    have hfirst := hp.first
    have hoffset := hp.offset
    simp only [hshown, List.getElem_cons_zero] at hat
    omega
  · rw [hselected, ← hexact.columns.length_eq]
    exact hlt

/-- **The cursor column is always on screen.** After every run that does not fault, a
viewer of a source with columns shows the row numbers and a run of consecutive columns,
and the cursor column is one of these and is selected. -/
theorem cursor_column_on_screen {name : String} {clipboard : Option Clipboard} {source : Source}
    {earlier : List Nat} {width height : Nat} {messages : List Message}
    (hcolumns : 0 < source.columnCount)
    (h : browse name clipboard source earlier width height messages = .ok viewer) :
    CursorOnScreen source viewer := by
  obtain ⟨hs, hc, hp⟩ := showsCursor_browse h
  have hlast := hp.last
  exact hp.onScreen hs hc (by omega)

/-- Columns of other widths each, on a screen that becomes narrower than any of them. -/
theorem cursor_column_on_screen_narrow :
    0 < 3 ∧ ∃ viewer,
      browse "" none { Source.grid 2 3 with columnWidth := fun column => .ok (column * 7) } [] 30 12
        [.moveRight, .moveLeft, .resize 0 12] = .ok viewer ∧
      CursorOnScreen { Source.grid 2 3 with columnWidth := fun column => .ok (column * 7) }
        viewer := by
  have hok : (browse "" none
      { Source.grid 2 3 with columnWidth := fun column => .ok (column * 7) } [] 30 12
        [.moveRight, .moveLeft, .resize 0 12]).isOk = true := by cbv
  obtain ⟨viewer, h⟩ := exists_eq_ok_of_isOk hok
  exact ⟨by decide, viewer, h, cursor_column_on_screen (by decide) h⟩

end Viewer

end AttributeBrowser
