import AttributeBrowser.Proofs.Viewer.Window

/-!
# The viewer moves as a plain cursor does

A `Cursor` has a row and a column of a table and no window around them; all it knows of
the screen is how many rows fit, which is the length of a page. Over every run in which
no move to the end is made while no row fits, a viewer selects the row and the column of
such a cursor. The rows and the columns do not depend on each other, so each is
followed on its own.
-/

namespace AttributeBrowser

/-- A cursor without a window. -/
structure Cursor where
  row : Nat
  column : Nat
  /-- The number of rows that fit on the screen. -/
  height : Nat
deriving DecidableEq, Repr

namespace Cursor

/-- The row so many rows down, but not behind the last one. It stays if no row fits on
the screen, or if there is none. -/
def rowDown (count height row steps : Nat) : Nat :=
  if 0 < height ∧ 0 < count then min (row + steps) (count - 1) else row

/-- The row after a message, in a table of `count` rows. -/
def rowAfter (count height row : Nat) : Message → Nat
  | .moveUp rows => row - rows
  | .moveDown rows => rowDown count height row rows
  | .pageUp => row - max height 1
  | .pageDown => rowDown count height row (max height 1)
  | .moveBeginning => 0
  | .moveEnd => if 0 < count then count - 1 else row
  | .quit | .moveLeft | .moveRight | .followLink | .copyCell | .resize _ _ => row

/-- The column after a message, where a source has `columns` columns. Column 0 has the
row numbers and is never selected. -/
def columnAfter (columns column : Nat) : Message → Nat
  | .moveLeft => max (column - 1) 1
  | .moveRight => min (column + 1) (max columns 1)
  | _ => column

theorem columnAfter_of_isVertical {message : Message} (h : message.IsVertical)
    (columns column : Nat) : columnAfter columns column message = column := by
  cases message with
  | moveLeft => exact absurd h id
  | moveRight => exact absurd h id
  | _ => rfl

/-- What a message does to a cursor in a table of `count` rows and `columns` columns. -/
def step (count columns : Nat) (cursor : Cursor) (message : Message) : Cursor where
  row := rowAfter count cursor.height cursor.row message
  column := columnAfter columns cursor.column message
  height := message.bodyHeight cursor.height

/-- The cursor after some messages, on a screen that had this height at first. -/
def after (count columns height : Nat) (messages : List Message) : Cursor :=
  messages.foldl (step count columns) ⟨0, 1, height - Viewer.frameHeight⟩

theorem after_concat (count columns height : Nat) (messages : List Message) (message : Message) :
    after count columns height (messages ++ [message]) =
      (after count columns height messages).step count columns message := by
  simp only [after, List.foldl_append, List.foldl_cons, List.foldl_nil]

theorem height_after (count columns height : Nat) (messages : List Message) :
    (after count columns height messages).height = bodyHeight height messages := by
  induction messages using List.reverseRecOn with
  | nil => rfl
  | append_singleton messages message ih => rw [after_concat, bodyHeight_concat, ← ih, step]

/-! ## A cursor stays in its table -/

theorem rowDown_lt {count height row : Nat} (h : row < count) (steps : Nat) :
    rowDown count height row steps < count := by
  unfold rowDown
  split <;> omega

theorem rowAfter_lt {count height row : Nat} (h : row < count) (message : Message) :
    rowAfter count height row message < count := by
  cases message with
  | moveUp rows => exact Nat.lt_of_le_of_lt (Nat.sub_le _ _) h
  | pageUp => exact Nat.lt_of_le_of_lt (Nat.sub_le _ _) h
  | moveDown rows => exact rowDown_lt h rows
  | pageDown => exact rowDown_lt h _
  | moveBeginning => exact Nat.zero_lt_of_lt h
  | moveEnd =>
    rw [rowAfter, if_pos (Nat.zero_lt_of_lt h)]
    omega
  | _ => exact h

/-- The row is one of the table, if the table has rows. -/
theorem row_after_lt {count : Nat} (hcount : 0 < count) (columns height : Nat)
    (messages : List Message) : (after count columns height messages).row < count := by
  induction messages using List.reverseRecOn with
  | nil => exact hcount
  | append_singleton messages message ih =>
    rw [after_concat]
    exact rowAfter_lt ih message

/-- The column is one of the source, or 1. -/
theorem column_after_mem (count columns height : Nat) (messages : List Message) :
    1 ≤ (after count columns height messages).column ∧
      (after count columns height messages).column ≤ max columns 1 := by
  induction messages using List.reverseRecOn with
  | nil => exact ⟨Nat.le_refl 1, Nat.le_max_right columns 1⟩
  | append_singleton messages message ih =>
    rw [after_concat]
    cases message with
    | moveLeft =>
      simp only [step, columnAfter]
      omega
    | moveRight =>
      simp only [step, columnAfter]
      omega
    | _ => exact ih

end Cursor

/-! ## The rows -/

/-- Every move to the end is made while rows fit. -/
def EndsFit (height : Nat) (messages : List Message) : Prop :=
  ∀ before after, messages = before ++ .moveEnd :: after → 0 < bodyHeight height before

theorem endsFit_nil (height : Nat) : EndsFit height [] := by
  intro before after hmessages
  cases before <;> cases hmessages

/-- A run has its moves to the end where it had them before, and perhaps at its end. -/
theorem endsFit_concat {height : Nat} {messages : List Message} {message : Message} :
    EndsFit height (messages ++ [message]) ↔
      EndsFit height messages ∧ (message = .moveEnd → 0 < bodyHeight height messages) := by
  constructor
  · intro h
    constructor
    · intro before after hmessages
      exact h before (after ++ [message])
        (concat_eq_append_cons_iff.mpr (.inr ⟨after, hmessages, rfl⟩))
    · rintro rfl
      exact h messages [] rfl
  · rintro ⟨hends, hend⟩ before after hmessages
    rcases concat_eq_append_cons_iff.mp hmessages with ⟨rfl, hlast, -⟩ | ⟨rest, hrest, -⟩
    · exact hend hlast
    · exact hends before rest hrest

namespace RowWindow

/-- **One message moves the row of a window as it moves a row alone**: where the window
stands does not matter, but how many rows fit does. -/
theorem selected_step {count : Nat} {window : RowWindow} {message : Message}
    (hrow : 0 < count → window.selected < count)
    (hend : message = .moveEnd → 0 < window.height) :
    (window.step count message).selected =
      Cursor.rowAfter count window.height window.selected message := by
  cases message with
  | moveUp rows => exact selected_moveUp window rows
  | pageUp => exact selected_moveUp window _
  | moveDown rows => exact selected_moveDown hrow rows
  | pageDown => exact selected_moveDown hrow _
  | moveEnd => exact selected_moveEnd (hend rfl)
  | resize width height => exact selected_resize window _
  | _ => rfl

theorem selected_after {count height : Nat} (columns : Nat) {messages : List Message}
    (hends : EndsFit height messages) :
    (after count height messages).selected = (Cursor.after count columns height messages).row := by
  induction messages using List.reverseRecOn with
  | nil => rfl
  | append_singleton messages message ih =>
    obtain ⟨hends, hend⟩ := endsFit_concat.mp hends
    have hselected := ih hends
    have hheight := height_after count height messages
    rw [after_concat, Cursor.after_concat, selected_step, hselected, hheight, Cursor.step,
      Cursor.height_after]
    · intro hcount
      rw [hselected]
      exact Cursor.row_after_lt hcount columns height messages
    · rw [hheight]
      exact hend

end RowWindow

namespace Viewer

variable {viewer next : Viewer}

/-! ## The columns -/

theorem Step.cursorColumn {message : Message} (h : Step viewer message next)
    (hfirst : 1 ≤ viewer.cursorColumn)
    (hlast : viewer.cursorColumn ≤ max viewer.table.source.columnCount 1) :
    next.cursorColumn =
      Cursor.columnAfter viewer.table.source.columnCount viewer.cursorColumn message := by
  cases h with
  | quit => rfl
  | rows hmessage hshow =>
    rw [Cursor.columnAfter_of_isVertical hmessage]
    exact (samePlace_refresh hshow).cursorColumn
  | sameRows hmessage _ => rw [Cursor.columnAfter_of_isVertical hmessage]
  | left hcolumn hshow =>
    rw [(samePlace_refresh hshow).cursorColumn]
    simp only [Cursor.columnAfter]
    omega
  | firstColumn hcolumn =>
    -- the cursor is in column 1 and not in column 0, where it would go to the right
    simp only [Cursor.columnAfter]
    omega
  | right hcolumn hshow hscroll =>
    rw [(samePlace_scrollToCursor hscroll).cursorColumn, (samePlace_refresh hshow).cursorColumn]
    simp only [Cursor.columnAfter]
    omega
  | lastColumn hcolumn =>
    simp only [Cursor.columnAfter]
    omega
  | follow _ _ => rfl
  | copy _ _ _ => rfl
  | noPlace _ hmessage => rcases hmessage with rfl | rfl <;> rfl
  | resize hshow hscroll =>
    exact (samePlace_scrollToCursor hscroll).cursorColumn.trans
      (samePlace_refresh hshow).cursorColumn

/-- **The column of a viewer after a run** is that of a cursor, whatever the window. -/
theorem cursorColumn_browse {name : String} {clipboard : Option Clipboard} {source : Source}
    {earlier : List Nat} {width height : Nat} {messages : List Message}
    (h : browse name clipboard source earlier width height messages = .ok viewer) :
    viewer.cursorColumn =
      (Cursor.after source.rowCount source.columnCount height messages).column := by
  refine (browse_current_induct (P := fun messages viewer => viewer.cursorColumn =
    (Cursor.after source.rowCount source.columnCount height messages).column) ?_ ?_ h).2.2
  · intro numbers first message _ hfirst
    exact hfirst.cursorColumn (Nat.le_refl 1) (Nat.le_max_right _ _)
  · intro messages viewer next message hs _ hcolumn hnext
    obtain ⟨hfirst, hlast⟩ :=
      Cursor.column_after_mem source.rowCount source.columnCount height messages
    rw [← hcolumn] at hfirst hlast
    rw [← hs.table] at hlast
    rw [hnext.cursorColumn hfirst hlast, hs.table, hcolumn, Cursor.after_concat, Cursor.step]

/-- **A viewer refines a plain cursor**: after every run without a move to the end made
while no row fits, it selects the row and the column of the cursor. -/
theorem selects_as_cursor {name : String} {clipboard : Option Clipboard} {source : Source}
    {earlier : List Nat} {width height : Nat} {messages : List Message}
    (h : browse name clipboard source earlier width height messages = .ok viewer)
    (hends : EndsFit height messages) :
    (viewer.window.absoluteRow, viewer.cursorColumn) =
      ((Cursor.after source.rowCount source.columnCount height messages).row,
        (Cursor.after source.rowCount source.columnCount height messages).column) := by
  obtain ⟨hs, hc⟩ := current_browse h
  have hrow : viewer.window.absoluteRow =
      (RowWindow.after source.rowCount height messages).selected := by
    rw [(hc.exact hs).absoluteRow, ← rowWindow_browse h]
    rfl
  rw [hrow, RowWindow.selected_after source.columnCount hends, cursorColumn_browse h]

/-- A run to the end, back and down again, on a screen that loses all its rows and gets
some back. -/
theorem selects_as_cursor_resized :
    ∃ viewer, browse "" none (.grid 5 2) [] 80 4
        [.moveEnd, .pageUp, .resize 80 0, .moveDown 1, .moveRight, .resize 80 5, .pageDown] =
          .ok viewer ∧
      (viewer.window.absoluteRow, viewer.cursorColumn) = (4, 2) := by
  have hok : (browse "" none (.grid 5 2) [] 80 4
      [.moveEnd, .pageUp, .resize 80 0, .moveDown 1, .moveRight, .resize 80 5,
        .pageDown]).isOk = true := by cbv
  obtain ⟨viewer, h⟩ := exists_eq_ok_of_isOk hok
  have hends : EndsFit 4 ([] ++ [.moveEnd] ++ [.pageUp] ++ [.resize 80 0] ++ [.moveDown 1] ++
      [.moveRight] ++ [.resize 80 5] ++ [.pageDown]) := by
    simp only [endsFit_concat, endsFit_nil]
    decide
  exact ⟨viewer, h, selects_as_cursor h hends⟩

end Viewer

end AttributeBrowser
