import Mathlib.Data.Nat.Dist
import AttributeBrowser.Proofs.Viewer.Faults

/-!
# The window moves as little as possible

Of all first rows from which the rows that fit reach the row of the cursor, a viewer takes the
one closest to the first row that it had, whatever the message, unless it goes to the end: the
last row is put at the bottom of the window even where it could be seen already. Of all first
columns from which the cursor column is laid out, it always takes the closest one.
-/

namespace AttributeBrowser

/-- Of all values with a property, this one is the closest to an old one: all others are
further off. -/
structure Closest (old : Nat) (P : Nat → Prop) (new : Nat) : Prop where
  holds : P new
  closer : ∀ other, P other → other ≠ new → Nat.dist old new < Nat.dist old other

theorem Closest.same {P : Nat → Prop} {old : Nat} (h : P old) : Closest old P old where
  holds := h
  closer := by
    intro other _ hne
    unfold Nat.dist
    omega

/-! ## Rows -/

namespace RowWindow

variable {window : RowWindow} {message : Message}

/-- From this first row on, so many rows reach a row. -/
def ShowsRow (height row offset : Nat) : Prop := offset ≤ row ∧ row < offset + height

/-- The first row of a window that follows a row past its edges. -/
def follow (height row offset : Nat) : Nat := max (min offset row) (row + 1 - height)

/-- **Following a row past the edges** moves the window no further than it has to. -/
theorem closest_follow {height : Nat} (hheight : 0 < height) (row offset : Nat) :
    Closest offset (ShowsRow height row) (follow height row offset) where
  holds := by
    unfold follow ShowsRow
    omega
  closer := by
    intro other hother hne
    unfold follow ShowsRow Nat.dist at *
    omega

theorem CursorFits.offset_eq (h : window.CursorFits) (hheight : 0 < window.height) :
    window.offset = follow window.height window.selected window.offset := by
  have hcursor := h hheight
  unfold follow selected
  omega

theorem offset_moveUp (h : window.CursorFits) (hheight : 0 < window.height) (rows : Nat) :
    (window.moveUp rows).offset =
      follow window.height (window.moveUp rows).selected window.offset := by
  have hcursor := h hheight
  simp only [moveUp, follow, selected]
  omega

theorem offset_moveDown (h : window.CursorFits) (hheight : 0 < window.height) (count rows : Nat) :
    (window.moveDown count rows).offset =
      follow window.height (window.moveDown count rows).selected window.offset := by
  by_cases hmoves : window.CanMoveDown count
  · rw [moveDown_of_canMoveDown hmoves]
    obtain ⟨-, hbelow⟩ := hmoves
    simp only [follow, selected] at hbelow ⊢
    omega
  · rw [moveDown_of_not_canMoveDown hmoves]
    exact h.offset_eq hheight

theorem offset_resize (window : RowWindow) {height : Nat} (hheight : 0 < height) :
    (window.resize height).offset =
      follow height (window.resize height).selected window.offset := by
  rw [resize, if_neg (by omega)]
  simp only [follow, selected]
  omega

/-- **The window follows the cursor**, unless it goes to the end. -/
theorem CursorFits.offset_step (h : window.CursorFits) (count : Nat) (hend : message ≠ .moveEnd)
    (hheight : 0 < (window.step count message).height) :
    (window.step count message).offset =
      follow (window.step count message).height (window.step count message).selected
        window.offset := by
  rw [height_step] at hheight ⊢
  cases message with
  | moveUp rows => exact offset_moveUp h hheight rows
  | pageUp => exact offset_moveUp h hheight _
  | moveDown rows => exact offset_moveDown h hheight count rows
  | pageDown => exact offset_moveDown h hheight count _
  | moveBeginning =>
    simp only [RowWindow.step, Message.bodyHeight, follow, selected] at hheight ⊢
    omega
  | moveEnd => exact absurd rfl hend
  | resize width height => exact offset_resize window hheight
  | quit | moveLeft | moveRight | followLink | copyCell => exact h.offset_eq hheight

end RowWindow

namespace Viewer

variable {source : Source} {viewer middle next : Viewer} {message : Message}

/-! ## Columns -/

/-- From this first column on, a screen of a width shows a column. -/
structure ShowsFrom (source : Source) (width column first : Nat) : Prop where
  pos : 1 ≤ first
  le : first ≤ column
  mem : ∃ shown, layout { source } width first = .ok shown ∧ column ∈ shown

/-- From this first column on, a screen of a width does not reach a column. -/
def HidesFrom (source : Source) (width column first : Nat) : Prop :=
  ∃ shown, layout { source } width first = .ok shown ∧ column ∉ shown

/-- A place that shows a column is behind all that hide it. -/
theorem ShowsFrom.lt_of_hides {width column first passed : Nat}
    (h : ShowsFrom source width column first) (hcolumn : column ≤ source.columnCount)
    (hle : passed ≤ column) (hhides : HidesFrom source width column passed) : passed < first := by
  apply Nat.lt_of_not_le
  intro hbehind
  obtain ⟨hidden, hlayout, hmem⟩ := hhides
  obtain ⟨shown, hshown, hshows⟩ := h.mem
  exact hmem (mem_layout_of_le hshown hlayout (Nat.le_refl _) h.pos hbehind hle hcolumn hshows)

/-- The first place that does not hide a column is the closest one to where the search for it
started. -/
theorem ShowsFrom.closest {width column old new : Nat} (h : ShowsFrom source width column new)
    (hcolumn : column ≤ source.columnCount) (hle : old ≤ new)
    (hpassed : ∀ first, old ≤ first → first < new → HidesFrom source width column first) :
    Closest old (ShowsFrom source width column) new where
  holds := h
  closer := by
    intro other hother hne
    unfold Nat.dist
    by_cases hlt : old < new
    · -- every place that was passed hides the column, and so does every place before it
      have hlast := hpassed (new - 1) (by omega) (by omega)
      have hfirst := h.le
      have hafter := hother.lt_of_hides hcolumn (by omega) hlast
      omega
    · omega

/-- What scrolling to the cursor column has gone through since it started. -/
structure Passes (source : Source) (start viewer : Viewer) : Prop where
  sound : Sound source viewer
  current : Current viewer
  width : viewer.width = start.width
  cursorColumn : viewer.cursorColumn = start.cursorColumn
  le : start.offsetColumn ≤ viewer.offsetColumn
  hides : ∀ first, start.offsetColumn ≤ first → first < viewer.offsetColumn →
    HidesFrom source start.width start.cursorColumn first

theorem Passes.pass {start : Viewer} (h : Passes source start viewer)
    (hhidden : viewer.CursorHidden)
    (hshow : Viewer.refresh { viewer with offsetColumn := viewer.offsetColumn + 1 } = .ok next) :
    Passes source start next := by
  obtain ⟨hs, hc, hwidth, hcursor, hle, hhides⟩ := h
  obtain ⟨hs', hc'⟩ := hs.refresh hshow rfl rfl
  have hplace := samePlace_refresh hshow
  have hoffset : next.offsetColumn = viewer.offsetColumn + 1 := (refresh_offsetColumn hshow :)
  refine ⟨hs', hc', hplace.width.trans hwidth, hplace.cursorColumn.trans hcursor, by omega, ?_⟩
  intro first hfirst hlt
  by_cases hnew : first = viewer.offsetColumn
  · -- the place that is left now
    have hlayout := hc.layout_source hs
    rw [hwidth, ← hnew] at hlayout
    exact ⟨viewer.shown, hlayout, hcursor ▸ hhidden.2⟩
  · exact hhides first hfirst (by omega)

/-- Scrolling goes through places that hide the cursor column only. -/
theorem Passes.scrollToCursor (hs : Sound source viewer) (hc : Current viewer)
    (h : viewer.scrollToCursor = .ok next) : Passes source viewer next := by
  refine (scrollToCursor_while_induct (P := Passes source viewer)
    (fun _ _ hmiddle hhidden hshow => hmiddle.pass hhidden hshow) h ?_).1
  exact ⟨hs, hc, rfl, rfl, Nat.le_refl _, fun first hfirst hlt => absurd hlt (by omega)⟩

theorem Ready.showsFrom (h : Ready source viewer) (hcolumns : 0 < source.columnCount) :
    ShowsFrom source viewer.width viewer.cursorColumn viewer.offsetColumn := by
  obtain ⟨hs, hc, ⟨⟨hfirst, hle, hlast⟩, hmem⟩, -⟩ := h
  exact ⟨hfirst, hle, viewer.shown, hc.layout_source hs, hmem (by omega)⟩

/-- **Scrolling to the cursor column** stops at the closest place that shows it. -/
theorem Ready.closest_of_scroll (h : Ready source next) (hcolumns : 0 < source.columnCount)
    (hs : Sound source middle) (hc : Current middle) (hscroll : middle.scrollToCursor = .ok next) :
    Closest middle.offsetColumn (ShowsFrom source next.width next.cursorColumn)
      next.offsetColumn := by
  obtain ⟨-, -, hwidth, hcursor, hle, hhides⟩ := Passes.scrollToCursor hs hc hscroll
  rw [← hwidth, ← hcursor] at hhides
  have hlast := h.cursor.last
  exact (h.showsFrom hcolumns).closest (by omega) hle hhides

/-- **The columns of the window move as little as possible**, whatever the message. -/
theorem Ready.closest_column (h : Ready source viewer) (hcolumns : 0 < source.columnCount)
    (hstep : Step viewer message next) :
    Closest viewer.offsetColumn (ShowsFrom source next.width next.cursorColumn)
      next.offsetColumn := by
  have hnext := h.step hstep
  have hshows := hnext.showsFrom hcolumns
  have hsame (hoffset : next.offsetColumn = viewer.offsetColumn) :
      Closest viewer.offsetColumn (ShowsFrom source next.width next.cursorColumn)
        next.offsetColumn := by
    rw [← hoffset]
    exact .same hshows
  cases hstep with
  | quit => exact hsame rfl
  | rows _ hshow => exact hsame (refresh_offsetColumn hshow :)
  | sameRows _ _ => exact hsame rfl
  | left hcolumn hshow =>
    have hcursor : next.cursorColumn = viewer.cursorColumn - 1 :=
      (samePlace_refresh hshow).cursorColumn
    have hoffset : next.offsetColumn = min (viewer.cursorColumn - 1) viewer.offsetColumn :=
      (refresh_offsetColumn hshow :)
    refine ⟨hshows, fun other hother hne => ?_⟩
    -- the window moves only if the cursor has left it, and then starts at the cursor itself
    have hle := hother.le
    unfold Nat.dist
    omega
  | firstColumn _ => exact hsame rfl
  | @right middle _ _ hshow hscroll =>
    obtain ⟨hs', hc'⟩ := h.sound.refresh hshow rfl rfl
    have hoffset : middle.offsetColumn = viewer.offsetColumn := (refresh_offsetColumn hshow :)
    rw [← hoffset]
    exact hnext.closest_of_scroll hcolumns hs' hc' hscroll
  | lastColumn _ => exact hsame rfl
  | follow _ _ => exact hsame rfl
  | copy _ _ _ => exact hsame rfl
  | noPlace _ _ => exact hsame rfl
  | @resize _ _ middle _ hshow hscroll =>
    obtain ⟨hs', hc'⟩ := h.sound.refresh hshow rfl rfl
    have hoffset : middle.offsetColumn = viewer.offsetColumn := (refresh_offsetColumn hshow :)
    rw [← hoffset]
    exact hnext.closest_of_scroll hcolumns hs' hc' hscroll

/-- **The rows of the window move as little as possible**, unless they go to the end. -/
theorem Ready.closest_row (h : Ready source next) (hfits : viewer.rowWindow.CursorFits)
    (hstep : Step viewer message next) (hend : message ≠ .moveEnd) (hheight : 0 < next.height) :
    Closest viewer.offsetRow
      (fun offset => offset ≤ next.window.absoluteRow ∧
        next.window.absoluteRow < offset + next.height) next.offsetRow := by
  have hrows := hstep.rowWindow
  have hoffset := hfits.offset_step viewer.table.rowCount hend (by
    rw [← hrows]
    exact hheight)
  rw [← hrows] at hoffset
  rw [(h.current.exact h.sound).absoluteRow]
  show Closest viewer.offsetRow (RowWindow.ShowsRow next.height next.rowWindow.selected)
    next.rowWindow.offset
  rw [hoffset]
  exact RowWindow.closest_follow hheight next.rowWindow.selected viewer.offsetRow

/-! ## Runs -/

/-- **Scrolling moves the window as little as possible.** After every run that does not fault,
every further message that is answered, except a move to the end, leaves the first row as close
to the old one as the cursor row on the screen allows, as long as rows fit; and every message at
all leaves the first column as close to the old one as the cursor column on the screen
allows, if there are columns. -/
theorem window_moves_least {name : String} {clipboard : Option Clipboard} {earlier : List Nat}
    {width height : Nat} {messages : List Message}
    (h : browse name clipboard source earlier width height messages = .ok viewer)
    (hupdate : viewer.update message = .ok next) :
    (message ≠ .moveEnd → 0 < next.height →
      Closest viewer.offsetRow
        (fun offset => offset ≤ next.window.absoluteRow ∧
          next.window.absoluteRow < offset + next.height) next.offsetRow) ∧
    (0 < source.columnCount →
      Closest viewer.offsetColumn (ShowsFrom source next.width next.cursorColumn)
        next.offsetColumn) := by
  have hready := ready_browse h
  have hstep := Step.of_update hupdate
  have hfits : viewer.rowWindow.CursorFits := by
    rw [rowWindow_browse h]
    exact RowWindow.cursorFits_after _ _ _
  refine ⟨fun hend hheight => ?_, fun hcolumns => hready.closest_column hcolumns hstep⟩
  exact (hready.step hstep).closest_row hfits hstep hend hheight

/-- A screen that gets lower and narrower around a cursor at its lower right edge. -/
theorem window_moves_least_resized :
    ∃ viewer next, browse "" none (.grid 9 3) [] 80 6 [.moveDown 3, .moveRight, .moveRight] =
        .ok viewer ∧
      viewer.update (.resize 20 4) = .ok next ∧ 0 < next.height ∧
      Closest viewer.offsetRow (fun offset => offset ≤ next.window.absoluteRow ∧
        next.window.absoluteRow < offset + next.height) next.offsetRow ∧
      Closest viewer.offsetColumn (ShowsFrom (.grid 9 3) next.width next.cursorColumn)
        next.offsetColumn := by
  have hc : (Source.grid 9 3).Complete := ⟨Source.answers_grid 9 3, by decide, by decide, by decide⟩
  obtain ⟨next, hnext⟩ : ∃ next, browse "" none (.grid 9 3) [] 80 6
      ([.moveDown 3, .moveRight, .moveRight] ++ [.resize 20 4]) = .ok next := by
    apply exists_browse hc (by decide)
    simp only [List.cons_append, List.nil_append, List.mem_cons, List.not_mem_nil, or_false,
      forall_eq_or_imp, forall_eq, Message.Fits]
    decide
  obtain ⟨viewer, h, hrun⟩ := (browse_append_eq_ok_iff _).mp hnext
  obtain ⟨last, hupdate, hlast⟩ := bind_eq_ok_iff.mp hrun
  cases hlast
  have hheight : 0 < next.height := by
    have hrows := congrArg RowWindow.height (rowWindow_browse hnext)
    exact Nat.lt_of_lt_of_eq (by decide) hrows.symm
  obtain ⟨hrow, hcolumn⟩ := window_moves_least h hupdate
  exact ⟨viewer, next, h, hupdate, hheight, hrow (by decide) hheight, hcolumn (by decide)⟩

end Viewer

end AttributeBrowser
