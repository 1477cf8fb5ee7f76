import AttributeBrowser.Proofs.Viewer.Columns

/-!
# Viewers that are ready

A viewer that has been shown is `Ready`: its window is current, its cursor column is on
the screen, and its cursor is not below the row behind the last one. Every message
leaves a ready viewer ready, so what a message does may be told of ready viewers alone.
-/

namespace AttributeBrowser

/-- The width of the screen, once a message has come. -/
def Message.screenWidth (width : Nat) : Message → Nat
  | .resize width _ => width
  | _ => width

theorem Message.IsVertical.screenWidth {message : Message} (h : message.IsVertical) (width : Nat) :
    message.screenWidth width = width := by
  cases message with
  | resize width height => exact absurd h id
  | _ => rfl

/-- The width of a screen that had this one at first, after some messages. -/
def screenWidth (width : Nat) (messages : List Message) : Nat :=
  messages.foldl Message.screenWidth width

theorem screenWidth_concat (width : Nat) (messages : List Message) (message : Message) :
    screenWidth width (messages ++ [message]) = message.screenWidth (screenWidth width messages) := by
  simp only [screenWidth, List.foldl_append, List.foldl_cons, List.foldl_nil]

namespace Viewer

variable {source : Source} {viewer next : Viewer} {message : Message}

/-- What holds of every viewer that has been shown. -/
structure Ready (source : Source) (viewer : Viewer) : Prop where
  sound : Sound source viewer
  current : Current viewer
  cursor : ShowsCursor source viewer
  row : viewer.rowWindow.selected ≤ source.rowCount

theorem ready_browse {name : String} {clipboard : Option Clipboard} {earlier : List Nat}
    {width height : Nat} {messages : List Message}
    (h : browse name clipboard source earlier width height messages = .ok viewer) :
    Ready source viewer := by
  obtain ⟨hs, hc, hp⟩ := showsCursor_browse h
  refine ⟨hs, hc, hp, ?_⟩
  rw [rowWindow_browse h]
  exact RowWindow.selected_after_le _ _ _

theorem Ready.step (h : Ready source viewer) (hstep : Step viewer message next) :
    Ready source next := by
  obtain ⟨hs, hc, hp, hrow⟩ := h
  obtain ⟨hs', hc'⟩ := hstep.current hs hc
  refine ⟨hs', hc', hp.step hs hc hstep, ?_⟩
  rw [hstep.rowWindow, TableView.rowCount, hs.table]
  exact RowWindow.selected_step_le hrow message

theorem Step.width (h : Step viewer message next) :
    next.width = message.screenWidth viewer.width := by
  cases h with
  | quit => rfl
  | rows hmessage hshow =>
    rw [hmessage.screenWidth]
    exact (samePlace_refresh hshow).width
  | sameRows hmessage _ => rw [hmessage.screenWidth]
  | left _ hshow => exact (samePlace_refresh hshow).width
  | firstColumn _ => rfl
  | right _ hshow hscroll =>
    exact (samePlace_scrollToCursor hscroll).width.trans (samePlace_refresh hshow).width
  | lastColumn _ => rfl
  | follow _ _ => rfl
  | copy _ _ _ => rfl
  | noPlace _ hmessage => rcases hmessage with rfl | rfl <;> rfl
  | resize hshow hscroll =>
    exact (samePlace_scrollToCursor hscroll).width.trans (samePlace_refresh hshow).width

/-- The width depends on nothing but the sizes of the screen. -/
theorem width_browse {name : String} {clipboard : Option Clipboard} {earlier : List Nat}
    {width height : Nat} {messages : List Message}
    (h : browse name clipboard source earlier width height messages = .ok viewer) :
    viewer.width = screenWidth width messages := by
  refine browse_induct (P := fun messages viewer => viewer.width = screenWidth width messages)
    ?_ ?_ h
  · intro numbers first message _ _ hfirst
    exact hfirst.width
  · intro messages viewer next message hwidth hnext
    rw [hnext.width, hwidth, screenWidth_concat]

theorem Step.name (h : Step viewer message next) :
    next.name = viewer.name := by
  cases h with
  | quit | firstColumn _ | lastColumn _ | sameRows _ _ | follow _ _ | copy _ _ _ | noPlace _ _ =>
    rfl
  | rows _ hshow | left _ hshow => exact (samePlace_refresh hshow).name
  | right _ hshow hscroll | resize hshow hscroll =>
    exact (samePlace_scrollToCursor hscroll).name.trans (samePlace_refresh hshow).name

/-- The window bears the name that the viewer was started with. -/
theorem windowName_browse {name : String} {clipboard : Option Clipboard} {earlier : List Nat}
    {width height : Nat} {messages : List Message}
    (h : browse name clipboard source earlier width height messages = .ok viewer) :
    viewer.window.name = name := by
  have hname : viewer.name = name :=
    browse_induct (P := fun _ viewer => viewer.name = name) (fun _ _ _ _ _ hfirst => hfirst.name)
      (fun _ _ _ _ hname hnext => hnext.name.trans hname) h
  obtain ⟨-, hc⟩ := current_browse h
  exact (congrArg (·.window.name) hc.same).symm.trans hname

/-! ## Longer runs -/

theorem run_append (viewer : Viewer) (before after : List Message) :
    viewer.run (before ++ after) = viewer.run before >>= (·.run after) := by
  induction before generalizing viewer with
  | nil => rfl
  | cons message rest ih =>
    simp only [List.cons_append, run]
    cases viewer.update message with
    | error fault => rfl
    | ok middle => exact ih middle

/-- A longer run goes on where the shorter one stands. -/
theorem browse_append_eq_ok_iff {name : String} {clipboard : Option Clipboard} {earlier : List Nat}
    {width height : Nat} (before : List Message) {after : List Message} :
    browse name clipboard source earlier width height (before ++ after) = .ok viewer ↔
      ∃ middle, browse name clipboard source earlier width height before = .ok middle ∧
        middle.run after = .ok viewer := by
  simp only [browse_eq_ok_iff, run_append, bind_eq_ok_iff]
  constructor
  · rintro ⟨numbers, sized, hensure, hsized, hcount, middle, hbefore, hafter⟩
    exact ⟨middle, ⟨numbers, sized, hensure, hsized, hcount, hbefore⟩, hafter⟩
  · rintro ⟨middle, ⟨numbers, sized, hensure, hsized, hcount, hbefore⟩, hafter⟩
    exact ⟨numbers, sized, hensure, hsized, hcount, middle, hbefore, hafter⟩

end Viewer

end AttributeBrowser
