import Mathlib.Data.List.Basic
import Mathlib.Data.List.Induction
import AttributeBrowser.Viewer.Basic

/-!
# The rows of a viewer

The cursor row of a viewer and the rows shown around it, alone: a `RowWindow` has the
first row shown, the place of the cursor below it and the number of rows that fit, and
`step` moves it as a message does, given the number of rows that there are. Nothing
else of a viewer decides where its rows are, and `step` never faults.
-/

namespace AttributeBrowser

/-- A cursor in a window of rows. -/
structure RowWindow where
  /-- The first row shown. -/
  offset : Nat
  /-- The row of the cursor, counted from the first row shown. -/
  cursor : Nat
  /-- The number of rows that fit. -/
  height : Nat
deriving DecidableEq, Repr

namespace RowWindow

/-- The row of the cursor. -/
def selected (window : RowWindow) : Nat := window.offset + window.cursor

/-- The cursor so many rows up, or at the first row. The window follows it past its top. -/
def moveUp (window : RowWindow) (rows : Nat) : RowWindow :=
  let target := window.selected - rows
  { window with offset := min window.offset target, cursor := target - window.offset }

/-- The cursor so many rows down, or at the last of `count` rows. The window follows it
past its bottom. Nothing moves in a window without rows or at the last row. -/
def moveDown (count : Nat) (window : RowWindow) (rows : Nat) : RowWindow :=
  if window.height = 0 ∨ count ≤ window.selected + 1 then window
  else
    let target := min (window.selected + rows) (count - 1)
    let offset := max window.offset (target + 1 - window.height)
    { window with offset := offset, cursor := target - offset }

/-- The cursor at the last of `count` rows, and that row at the bottom of the window. -/
def moveEnd (count : Nat) (window : RowWindow) : RowWindow :=
  if count = 0 then window
  else { window with offset := count - window.height, cursor := min count window.height - 1 }

/-- Another height. A cursor below the window moves the window down. -/
def resize (window : RowWindow) (height : Nat) : RowWindow :=
  if height = 0 then { window with height := 0 }
  else
    { offset := window.offset + (window.cursor + 1 - height)
      cursor := min window.cursor (height - 1)
      height }

/-- What a message does to the window of a table of `count` rows. -/
def step (count : Nat) (window : RowWindow) : Message → RowWindow
  | .moveUp rows => window.moveUp rows
  | .moveDown rows => window.moveDown count rows
  | .pageUp => window.moveUp (max window.height 1)
  | .pageDown => window.moveDown count (max window.height 1)
  | .moveBeginning => { window with offset := 0, cursor := 0 }
  | .moveEnd => window.moveEnd count
  | .resize _ height => window.resize (height - Viewer.frameHeight)
  | .quit | .moveLeft | .moveRight | .followLink | .copyCell => window

/-- The window of a table of `count` rows on a screen of a height, after some messages. -/
def after (count height : Nat) (messages : List Message) : RowWindow :=
  messages.foldl (step count) ⟨0, 0, height - Viewer.frameHeight⟩

variable {count : Nat} {window : RowWindow}

/-- A cursor below the rows that fit becomes the last of them. -/
theorem resize_of_below {height : Nat} (h : 0 < height ∧ height ≤ window.cursor) :
    window.resize height =
      ⟨window.offset + (window.cursor + 1 - height), height - 1, height⟩ := by
  rw [resize, if_neg (by omega), Nat.min_eq_right (by omega)]

theorem resize_of_not_below {height : Nat} (h : ¬(0 < height ∧ height ≤ window.cursor)) :
    window.resize height = ⟨window.offset, window.cursor, height⟩ := by
  unfold resize
  split
  · rename_i hzero
    rw [hzero]
  · simp only [mk.injEq, and_true]
    omega

/-- The window of a viewer that learns its screen. -/
theorem resize_start (height : Nat) : resize ⟨0, 0, 0⟩ height = ⟨0, 0, height⟩ :=
  resize_of_not_below fun h => Nat.not_le_of_lt h.1 h.2

/-! ## Where the cursor goes -/

/-- There is a row below the cursor to go to, and a window to show it in. -/
def CanMoveDown (count : Nat) (window : RowWindow) : Prop :=
  0 < window.height ∧ window.selected + 1 < count

instance (count : Nat) (window : RowWindow) : Decidable (window.CanMoveDown count) :=
  inferInstanceAs (Decidable (_ ∧ _))

theorem moveDown_of_not_canMoveDown (h : ¬window.CanMoveDown count) (rows : Nat) :
    window.moveDown count rows = window := by
  refine if_pos ?_
  unfold CanMoveDown at h
  omega

/-- The window follows a cursor that moves down past its bottom. -/
theorem moveDown_of_canMoveDown (h : window.CanMoveDown count) (rows : Nat) :
    window.moveDown count rows =
      let target := min (window.selected + rows) (count - 1)
      let offset := max window.offset (target + 1 - window.height)
      { window with offset := offset, cursor := target - offset } := by
  refine if_neg ?_
  unfold CanMoveDown at h
  omega

theorem after_concat (count height : Nat) (messages : List Message) (message : Message) :
    after count height (messages ++ [message]) =
      (after count height messages).step count message := by
  simp only [after, List.foldl_append, List.foldl_cons, List.foldl_nil]

@[simp] theorem selected_moveUp (window : RowWindow) (rows : Nat) :
    (window.moveUp rows).selected = window.selected - rows := by
  simp only [moveUp, selected]
  omega

theorem selected_moveDown (hrow : 0 < count → window.selected < count) (rows : Nat) :
    (window.moveDown count rows).selected =
      if 0 < window.height ∧ 0 < count then min (window.selected + rows) (count - 1)
      else window.selected := by
  by_cases hmoves : window.CanMoveDown count
  · rw [moveDown_of_canMoveDown hmoves]
    obtain ⟨hheight, hbelow⟩ := hmoves
    rw [if_pos ⟨hheight, by omega⟩]
    simp only [selected] at *
    omega
  · rw [moveDown_of_not_canMoveDown hmoves]
    unfold CanMoveDown at hmoves
    split
    · -- the cursor stands in the last row already
      omega
    · rfl

theorem selected_moveEnd (hheight : 0 < window.height) :
    (window.moveEnd count).selected = if 0 < count then count - 1 else window.selected := by
  by_cases hcount : count = 0
  · rw [moveEnd, if_pos hcount, if_neg (by omega)]
  · rw [moveEnd, if_neg hcount, if_pos (by omega)]
    simp only [selected]
    omega

@[simp] theorem selected_resize (window : RowWindow) (height : Nat) :
    (window.resize height).selected = window.selected := by
  unfold resize
  split
  · rfl
  · simp only [selected]
    omega

/-- **No message takes the cursor behind the table**, except to the row behind the last. -/
theorem selected_step_le (h : window.selected ≤ count) (message : Message) :
    (window.step count message).selected ≤ count := by
  have hdown : ∀ rows, (window.moveDown count rows).selected ≤ count := by
    intro rows
    by_cases hmoves : window.CanMoveDown count
    · rw [moveDown_of_canMoveDown hmoves]
      obtain ⟨hheight, hbelow⟩ := hmoves
      simp only [selected] at *
      omega
    · rw [moveDown_of_not_canMoveDown hmoves]
      exact h
  cases message with
  | moveUp rows => exact Nat.le_trans (selected_moveUp window rows ▸ Nat.sub_le _ _) h
  | pageUp => exact Nat.le_trans (selected_moveUp window _ ▸ Nat.sub_le _ _) h
  | moveDown rows => exact hdown rows
  | pageDown => exact hdown _
  | moveBeginning => exact Nat.zero_le count
  | moveEnd =>
    simp only [step, moveEnd]
    split
    · exact h
    · simp only [selected]
      omega
  | resize width height => exact (selected_resize window _).symm ▸ h
  | _ => exact h

theorem selected_after_le (count height : Nat) (messages : List Message) :
    (after count height messages).selected ≤ count := by
  induction messages using List.reverseRecOn with
  | nil => exact Nat.zero_le count
  | append_singleton messages message ih =>
    rw [after_concat]
    exact selected_step_le ih message

/-! ## The cursor in its window -/

/-- If rows fit in the window, the cursor is on one of them. -/
def CursorFits (window : RowWindow) : Prop := 0 < window.height → window.cursor < window.height

theorem CursorFits.moveUp (h : window.CursorFits) (rows : Nat) :
    (window.moveUp rows).CursorFits := by
  intro hheight
  have hcursor := h hheight
  simp only [RowWindow.moveUp, selected]
  omega

theorem CursorFits.moveDown (h : window.CursorFits) (count rows : Nat) :
    (window.moveDown count rows).CursorFits := by
  unfold RowWindow.moveDown
  split
  · exact h
  · intro hheight
    simp only at hheight ⊢
    omega

theorem CursorFits.moveEnd (h : window.CursorFits) (count : Nat) :
    (window.moveEnd count).CursorFits := by
  unfold RowWindow.moveEnd
  split
  · exact h
  · intro hheight
    simp only at hheight ⊢
    omega

theorem cursorFits_resize (window : RowWindow) (height : Nat) :
    (window.resize height).CursorFits := by
  unfold RowWindow.resize
  split
  · intro hzero
    exact absurd hzero (Nat.lt_irrefl 0)
  · intro hheight
    simp only at hheight ⊢
    omega

/-- **The cursor stays in its window.** -/
theorem CursorFits.step (h : window.CursorFits) (count : Nat) (message : Message) :
    (window.step count message).CursorFits := by
  cases message with
  | moveUp rows => exact h.moveUp rows
  | pageUp => exact h.moveUp _
  | moveDown rows => exact h.moveDown count rows
  | pageDown => exact h.moveDown count _
  | moveBeginning => exact fun hheight => hheight
  | moveEnd => exact h.moveEnd count
  | resize width height => exact cursorFits_resize window _
  | quit | moveLeft | moveRight | followLink | copyCell => exact h

theorem cursorFits_after (count height : Nat) (messages : List Message) :
    (after count height messages).CursorFits := by
  induction messages using List.reverseRecOn with
  | nil => exact fun hheight => hheight
  | append_singleton messages message ih =>
    rw [after_concat]
    exact ih.step count message

end RowWindow

/-- The number of rows that fit, once a message has come. -/
def Message.bodyHeight (fits : Nat) : Message → Nat
  | .resize _ height => height - Viewer.frameHeight
  | _ => fits

/-- The number of rows that fit a screen of a height, after some messages. -/
def bodyHeight (height : Nat) (messages : List Message) : Nat :=
  messages.foldl Message.bodyHeight (height - Viewer.frameHeight)

theorem bodyHeight_concat (height : Nat) (messages : List Message) (message : Message) :
    bodyHeight height (messages ++ [message]) =
      message.bodyHeight (bodyHeight height messages) := by
  simp only [bodyHeight, List.foldl_append, List.foldl_cons, List.foldl_nil]

theorem RowWindow.height_step (count : Nat) (window : RowWindow) (message : Message) :
    (window.step count message).height = message.bodyHeight window.height := by
  cases message with
  | moveDown rows =>
    simp only [step, moveDown, Message.bodyHeight]
    split <;> rfl
  | pageDown =>
    simp only [step, moveDown, Message.bodyHeight]
    split <;> rfl
  | moveEnd =>
    simp only [step, moveEnd, Message.bodyHeight]
    split <;> rfl
  | resize width height =>
    simp only [step, resize, Message.bodyHeight]
    split
    · rename_i hzero
      exact hzero.symm
    · rfl
  | _ => rfl

/-- A message of a longer run is the last one, or one of the run before. -/
theorem concat_eq_append_cons_iff {messages before after : List Message}
    {last message : Message} :
    messages ++ [last] = before ++ message :: after ↔
      (messages = before ∧ last = message ∧ after = []) ∨
        ∃ rest, messages = before ++ message :: rest ∧ after = rest ++ [last] := by
  constructor
  · intro h
    rcases List.eq_nil_or_concat' after with rfl | ⟨rest, other, rfl⟩
    · obtain ⟨rfl, hlast⟩ := List.append_inj' h rfl
      cases hlast
      exact .inl ⟨rfl, rfl, rfl⟩
    · rw [← List.cons_append, ← List.append_assoc] at h
      obtain ⟨rfl, hlast⟩ := List.append_inj' h rfl
      cases hlast
      exact .inr ⟨rest, rfl, rfl⟩
  · rintro (⟨rfl, rfl, rfl⟩ | ⟨rest, rfl, rfl⟩)
    · rfl
    · rw [List.append_assoc, List.cons_append]

/-- The height depends on nothing but the sizes of the screen. -/
theorem RowWindow.height_after (count height : Nat) (messages : List Message) :
    (after count height messages).height = AttributeBrowser.bodyHeight height messages := by
  induction messages using List.reverseRecOn with
  | nil => rfl
  | append_singleton messages message ih =>
    rw [after_concat, height_step, bodyHeight_concat, ih]

namespace Viewer

/-- The rows of a viewer. -/
def rowWindow (viewer : Viewer) : RowWindow := ⟨viewer.offsetRow, viewer.cursorRow, viewer.height⟩

/-- The viewer with its rows elsewhere; the window is not shown anew. -/
def withRows (viewer : Viewer) (rows : RowWindow) : Viewer :=
  { viewer with offsetRow := rows.offset, cursorRow := rows.cursor, height := rows.height }

end Viewer

end AttributeBrowser
