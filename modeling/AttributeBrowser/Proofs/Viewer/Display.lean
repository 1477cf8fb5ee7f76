import AttributeBrowser.Proofs.Viewer.Asked
import AttributeBrowser.Proofs.Viewer.Cursor
import AttributeBrowser.Proofs.Viewer.Faults

/-!
# Which cells a run computes

A viewer that copies no cell computes the cells of the windows it displays, and those that
a resizing passes on its way to the cursor column. The columns passed were on the screen
before, but rows that a higher screen uncovers were not, so a screen that gets narrower
and higher at once may have cells computed that are never displayed.
-/

namespace AttributeBrowser

namespace Viewer

variable {source : Source} {viewer next : Viewer} {message : Message}

/-! ## What was on the screen before -/

/-- Columns up to the one behind the cursor column were shown before they are passed. -/
theorem Ready.shown_of_passesBy (h : Ready source viewer) {place : Nat × Nat}
    (hoffset : next.offsetColumn ≤ viewer.cursorColumn + 1)
    (hlast : next.offsetColumn ≤ max source.columnCount 1) (hpass : PassesBy viewer next place) :
    place.2 + 1 ∈ viewer.shown := by
  obtain ⟨-, hle, hlt⟩ := hpass
  have hfirst := h.cursor.first
  have hcursor := h.cursor.last
  have hcolumn : viewer.cursorColumn ≤ source.columnCount := by omega
  have hlaid := h.cursor.toPlaced.laidOut h.sound h.current hcolumn
  have hmem := (hlaid.mem_iff (by omega)).mp (h.cursor.mem hcolumn)
  exact (hlaid.mem_iff (by omega)).mpr (by omega)

/-- **Only a resizing** passes cells that were not on the screen before it. -/
theorem Ready.inWindow_of_passesBy (h : Ready source viewer) (hstep : Step viewer message next)
    (hmessage : ∀ width height, message ≠ .resize width height) {place : Nat × Nat}
    (hpass : PassesBy viewer next place) : viewer.InWindow place := by
  have hnext := (h.step hstep).cursor
  have hoffset := hnext.offset
  have hlast := hnext.last
  cases hstep with
  | rows _ hshow =>
    have hoffset : next.offsetColumn = viewer.offsetColumn := (refresh_offsetColumn hshow :)
    exact absurd hpass (not_passesBy (Nat.le_of_eq hoffset) place)
  | left _ hshow =>
    have hoffset : next.offsetColumn = min (viewer.cursorColumn - 1) viewer.offsetColumn :=
      (refresh_offsetColumn hshow :)
    exact absurd hpass (not_passesBy (hoffset ▸ Nat.min_le_right _ _) place)
  | right hcolumn hshow hscroll =>
    have hplace := samePlace_refresh hshow
    have hplace' := samePlace_scrollToCursor hscroll
    have hcursor : next.cursorColumn = viewer.cursorColumn + 1 :=
      hplace'.cursorColumn.trans hplace.cursorColumn
    refine ⟨?_, h.shown_of_passesBy (by omega) (by omega) hpass⟩
    have hrows : next.rowWindow = viewer.rowWindow := hplace'.rows.trans hplace.rows
    have hsource := (h.step (.right hcolumn hshow hscroll)).sound.table.trans h.sound.table.symm
    exact rowsShown_congr hrows hsource ▸ hpass.1
  | resize => exact absurd rfl (hmessage _ _)
  | _ => exact absurd hpass (not_passesBy (Nat.le_refl _) place)

/-- **A screen that does not get narrower** passes no column. -/
theorem Ready.not_passesBy_of_wider {width height : Nat} (h : Ready source viewer)
    (hstep : Step viewer (.resize width height) next) (hwider : viewer.width ≤ width)
    (place : Nat × Nat) : ¬PassesBy viewer next place := by
  obtain ⟨middle, hshow, hscroll⟩ := hstep.exists_of_resize
  obtain ⟨hs', hc'⟩ := h.sound.refresh hshow rfl rfl
  have hoffset : middle.offsetColumn = viewer.offsetColumn := (refresh_offsetColumn hshow :)
  have hplace := samePlace_refresh hshow
  have hcursor : middle.cursorColumn = viewer.cursorColumn := hplace.cursorColumn
  have hwidth : middle.width = width := hplace.width
  have hlayout := hc'.layout_source hs'
  rw [hwidth, hoffset] at hlayout
  have hshown : ¬middle.CursorHidden := by
    rintro ⟨hcolumn, hmem⟩
    rw [hs'.table, hcursor] at hcolumn
    rw [hcursor] at hmem
    exact hmem (mem_layout_of_le (h.current.layout_source h.sound) hlayout hwider h.cursor.first
      (Nat.le_refl _) h.cursor.offset hcolumn (h.cursor.mem hcolumn))
  -- so no pass is made
  obtain ⟨rfl, -⟩ := scrollToCursor_while_induct (P := (· = middle)) (by
    rintro _ _ rfl hhidden -
    exact absurd hhidden hshown) hscroll rfl
  exact not_passesBy (Nat.le_of_eq hoffset) place

/-- A window that does not get higher shows no row of the table that it did not show before. -/
theorem resize_shows_old_rows {count height row : Nat} {window : RowWindow}
    (h : window.Inside count ∨ window.Beyond count) (hlower : height ≤ window.height)
    (hcount : row < count) (hle : (window.resize height).offset ≤ row)
    (hlt : row < (window.resize height).offset + height) :
    window.offset ≤ row ∧ row < window.offset + window.height := by
  by_cases hzero : height = 0
  · rw [RowWindow.resize, if_pos hzero] at hle hlt
    simp only at hle hlt
    omega
  · rw [RowWindow.resize, if_neg hzero] at hle hlt
    simp only at hle hlt
    rcases h with ⟨-, hcursor⟩ | ⟨hoffset, -⟩
    · -- the window moves down as far as its cursor, which it showed
      have hcursor := hcursor (by omega)
      omega
    · omega

/-- **A screen that does not get higher** passes only cells that were on it. -/
theorem Ready.inWindow_of_lower {width height : Nat} (h : Ready source viewer)
    (hstep : Step viewer (.resize width height) next)
    (hrows : viewer.rowWindow.Inside source.rowCount ∨ viewer.rowWindow.Beyond source.rowCount)
    (hlower : height - frameHeight ≤ viewer.height) {place : Nat × Nat}
    (hpass : PassesBy viewer next place) : viewer.InWindow place := by
  have hnext := h.step hstep
  have hwindow : next.rowWindow = viewer.rowWindow.resize (height - frameHeight) := hstep.rowWindow
  have hcursor : next.cursorColumn = viewer.cursorColumn := by
    obtain ⟨middle, hshow, hscroll⟩ := hstep.exists_of_resize
    exact (samePlace_scrollToCursor hscroll).cursorColumn.trans
      (samePlace_refresh hshow).cursorColumn
  have hoffset := hnext.cursor.offset
  have hlast := hnext.cursor.last
  refine ⟨?_, h.shown_of_passesBy (by omega) (by omega) hpass⟩
  obtain ⟨hle, hlt, hcount⟩ := mem_rowsShown.mp hpass.1
  rw [show next.offsetRow = (viewer.rowWindow.resize (height - frameHeight)).offset from
    congrArg RowWindow.offset hwindow] at hle hlt
  rw [show next.height = height - frameHeight from
    (congrArg RowWindow.height hstep.rowWindow).trans (RowWindow.height_step _ _ _)] at hlt
  rw [hnext.sound.table] at hcount
  obtain ⟨hle', hlt'⟩ := resize_shows_old_rows hrows hlower hcount hle hlt
  exact mem_rowsShown.mpr ⟨hle', hlt', h.sound.table ▸ hcount⟩

/-! ## Runs -/

/-- The window of some viewer of the run displayed the cell: of the first one, or of the one
that some of the messages lead to. -/
def DisplayedBy (run : List Message → Except Fault Viewer) (messages : List Message)
    (place : Nat × Nat) : Prop :=
  ∃ before viewer, before <+: messages ∧ run before = .ok viewer ∧ viewer.Displays place

/-- Some resizing of the run passed the cell. -/
def PassedBy (run : List Message → Except Fault Viewer) (messages : List Message)
    (place : Nat × Nat) : Prop :=
  ∃ before width height viewer next, before ++ [.resize width height] <+: messages ∧
    run before = .ok viewer ∧ run (before ++ [.resize width height]) = .ok next ∧
    PassesBy viewer next place

section Runs

variable {run : List Message → Except Fault Viewer} {messages : List Message}
  {place : Nat × Nat}

theorem displayedBy_nil (h : run [] = .ok viewer) :
    DisplayedBy run [] place ↔ viewer.Displays place := by
  constructor
  · rintro ⟨before, shown, hbefore, hshown, hplace⟩
    obtain rfl := List.prefix_nil.mp hbefore
    obtain rfl : viewer = shown := Except.ok.inj (h.symm.trans hshown)
    exact hplace
  · intro hplace
    exact ⟨[], viewer, List.prefix_refl _, h, hplace⟩

theorem displayedBy_concat (h : run (messages ++ [message]) = .ok next) :
    DisplayedBy run (messages ++ [message]) place ↔
      DisplayedBy run messages place ∨ next.Displays place := by
  constructor
  · rintro ⟨before, shown, hbefore, hshown, hplace⟩
    rcases List.prefix_concat_iff.mp hbefore with rfl | hbefore
    · obtain rfl : next = shown := Except.ok.inj (h.symm.trans hshown)
      exact .inr hplace
    · exact .inl ⟨before, shown, hbefore, hshown, hplace⟩
  · rintro (⟨before, shown, hbefore, hshown, hplace⟩ | hplace)
    · exact ⟨before, shown, hbefore.trans (List.prefix_append _ _), hshown, hplace⟩
    · exact ⟨_, next, List.prefix_refl _, h, hplace⟩

theorem not_passedBy_nil : ¬PassedBy run [] place := by
  rintro ⟨before, width, height, viewer, next, hbefore, -⟩
  exact absurd (List.prefix_nil.mp hbefore) (by simp)

theorem passedBy_concat (h : run messages = .ok viewer)
    (h' : run (messages ++ [message]) = .ok next) :
    PassedBy run (messages ++ [message]) place ↔ PassedBy run messages place ∨
      (∃ width height, message = .resize width height) ∧ PassesBy viewer next place := by
  constructor
  · rintro ⟨before, width, height, first, last, hbefore, hfirst, hlast, hpass⟩
    rcases List.prefix_concat_iff.mp hbefore with hsame | hbefore
    · obtain ⟨rfl, hmessage⟩ := List.append_inj' hsame rfl
      obtain rfl : .resize width height = message := List.head_eq_of_cons_eq hmessage
      obtain rfl : viewer = first := Except.ok.inj (h.symm.trans hfirst)
      obtain rfl : next = last := Except.ok.inj (h'.symm.trans hlast)
      exact .inr ⟨⟨width, height, rfl⟩, hpass⟩
    · exact .inl ⟨before, width, height, first, last, hbefore, hfirst, hlast, hpass⟩
  · rintro (⟨before, width, height, first, last, hbefore, hrest⟩ | ⟨⟨width, height, rfl⟩, hpass⟩)
    · exact ⟨before, width, height, first, last, hbefore.trans (List.prefix_append _ _), hrest⟩
    · exact ⟨messages, width, height, viewer, next, List.prefix_refl _, h, h', hpass⟩

end Runs

variable {name : String} {clipboard : Option Clipboard} {earlier : List Nat} {width height : Nat}
  {messages : List Message}

theorem displays_browse_iff
    (h : browse name clipboard source earlier width height messages = .ok viewer)
    {place : Nat × Nat} : viewer.Displays place ↔ viewer.InWindow place :=
  ((ready_browse h).current.exact (ready_browse h).sound).displays_iff place

theorem mem_rowsShown_browse
    (h : browse name clipboard source earlier width height messages = .ok viewer)
    {row : Nat} : row ∈ viewer.rowsShown ↔
      (RowWindow.after source.rowCount height messages).offset ≤ row ∧
        row < (RowWindow.after source.rowCount height messages).offset +
          (RowWindow.after source.rowCount height messages).height ∧ row < source.rowCount := by
  rw [mem_rowsShown, ← rowWindow_browse h, (ready_browse h).sound.table]
  rfl

theorem browse_concat_eq_ok
    (h : browse name clipboard source earlier width height (messages ++ [message]) = .ok next) :
    ∃ viewer, browse name clipboard source earlier width height messages = .ok viewer ∧
      Step viewer message next := by
  obtain ⟨viewer, hviewer, hrun⟩ := (browse_append_eq_ok_iff messages).mp h
  obtain ⟨last, hupdate, hlast⟩ := bind_eq_ok_iff.mp hrun
  cases hlast
  exact ⟨viewer, hviewer, .of_update hupdate⟩

/-- A viewer that has just learnt its screen has asked for the cells that it displays. -/
theorem asked_browse_nil (h : browse name clipboard source earlier width height [] = .ok viewer) :
    viewer.table.RemembersAsked ∧
      ∀ place, place ∈ viewer.table.asked ↔ viewer.Displays place := by
  have hready := ready_browse h
  obtain ⟨numbers, sized, hensure, hsized, -, hrun⟩ := browse_eq_ok_iff.mp h
  have hnumbered : source.rowCount ≤ numbers.size := by
    rw [RowNumbers.size_ensure hensure]
    exact Nat.le_max_right _ _
  have hs := Sound.unshown name clipboard ((RowNumbers.Counting.after earlier).ensure hensure)
    hnumbered
  have hp := Placed.unshown name clipboard source numbers
  obtain ⟨ha, hasked⟩ := hp.asked_resize hs (.fresh source) (.of_resize hsized)
  have hcursor : viewer.cursorColumn = 1 := cursorColumn_browse h
  have hoffset : viewer.offsetColumn ≤ 1 := hcursor ▸ hready.cursor.offset
  refine ⟨?_, fun place => ?_⟩
  · cases hrun
    exact ha
  · rw [displays_browse_iff h]
    cases hrun
    -- the first column of the window is that of the cursor, so no column is passed
    have hpass : ¬PassesBy (unshown name clipboard source numbers) sized place :=
      not_passesBy hoffset place
    have hnone : place ∉ (unshown name clipboard source numbers).table.asked := List.not_mem_nil
    rw [show (sized.say (greeting sized.table)).table.asked = sized.table.asked from rfl, hasked,
      or_iff_right hnone, or_iff_left hpass]
    rfl

/-- **What a run has asked for** is what it displayed and what it passed. -/
theorem asked_browse (hcopy : .copyCell ∉ messages)
    (h : browse name clipboard source earlier width height messages = .ok viewer) :
    viewer.table.RemembersAsked ∧ ∀ place, place ∈ viewer.table.asked ↔
      DisplayedBy (browse name clipboard source earlier width height) messages place ∨
        PassedBy (browse name clipboard source earlier width height) messages place := by
  induction messages using List.reverseRecOn generalizing viewer with
  | nil =>
    obtain ⟨ha, hasked⟩ := asked_browse_nil h
    refine ⟨ha, fun place => ?_⟩
    rw [hasked, displayedBy_nil h, or_iff_left not_passedBy_nil]
  | append_singleton messages message ih =>
    obtain ⟨middle, hmiddle, hstep⟩ := browse_concat_eq_ok h
    have hready := ready_browse hmiddle
    have hready' := hready.step hstep
    obtain ⟨ha, hasked⟩ := ih (fun hmem => hcopy (List.mem_append_left _ hmem)) hmiddle
    obtain ⟨ha', hasked'⟩ := hready.asked_step ha hstep
      (fun hmessage => hcopy (by simp [hmessage]))
    refine ⟨ha', fun place => ?_⟩
    rw [hasked', hasked, displayedBy_concat h, passedBy_concat hmiddle h, displays_browse_iff h]
    constructor
    · rintro ((hdisplayed | hpassed) | hnew | hpass)
      · exact .inl (.inl hdisplayed)
      · exact .inr (.inl hpassed)
      · exact .inl (.inr hnew)
      · by_cases hmessage : ∃ width height, message = .resize width height
        · exact .inr (.inr ⟨hmessage, hpass⟩)
        · -- what another message passes was on the screen before it
          have hin := hready.inWindow_of_passesBy hstep
            (fun width height heq => hmessage ⟨width, height, heq⟩) hpass
          exact .inl (.inl ⟨messages, middle, List.prefix_refl _, hmiddle,
            (displays_browse_iff hmiddle).mpr hin⟩)
    · rintro ((hdisplayed | hnew) | hpassed | ⟨-, hpass⟩)
      · exact .inl (.inl hdisplayed)
      · exact .inr (.inl hnew)
      · exact .inl (.inr hpassed)
      · exact .inr (.inr hpass)

/-- A screen that gets narrower does not get higher at once. -/
def NarrowsNoHigher (width height : Nat) (messages : List Message) : Prop :=
  ∀ before after width' height', messages = before ++ .resize width' height' :: after →
    screenWidth width before ≤ width' ∨ height' - frameHeight ≤ bodyHeight height before

theorem narrowsNoHigher_nil (width height : Nat) : NarrowsNoHigher width height [] := by
  intro before after width' height' hmessages
  cases before <;> cases hmessages

theorem NarrowsNoHigher.concat (h : NarrowsNoHigher width height messages)
    (hlast : ∀ width' height', message = .resize width' height' →
      screenWidth width messages ≤ width' ∨ height' - frameHeight ≤ bodyHeight height messages) :
    NarrowsNoHigher width height (messages ++ [message]) := by
  intro before after width' height' hmessages
  rcases concat_eq_append_cons_iff.mp hmessages with ⟨rfl, hmessage, -⟩ | ⟨rest, hrest, -⟩
  · exact hlast width' height' hmessage
  · exact h before rest width' height' hrest

/-- The rows of a run are inside or behind the last one, if the source has rows. -/
theorem inside_or_beyond_browse (hcount : 0 < source.rowCount)
    (h : browse name clipboard source earlier width height messages = .ok viewer) :
    viewer.rowWindow.Inside source.rowCount ∨ viewer.rowWindow.Beyond source.rowCount := by
  obtain ⟨hbeyond, hinside⟩ := RowWindow.beyond_or_inside_after height hcount messages
  rw [rowWindow_browse h]
  by_cases hstranded : Stranded height messages
  · exact .inr (hbeyond hstranded)
  · exact .inl (hinside hstranded)

/-- What such a run passes was on the screen before. -/
theorem NarrowsNoHigher.displayedBy_of_passedBy (h : NarrowsNoHigher width height messages)
    {place : Nat × Nat}
    (hpassed : PassedBy (browse name clipboard source earlier width height) messages place) :
    DisplayedBy (browse name clipboard source earlier width height) messages place := by
  obtain ⟨before, width', height', viewer, next, ⟨after, rfl⟩, hviewer, hnext, hpass⟩ := hpassed
  have hready := ready_browse hviewer
  obtain ⟨same, hsame, hstep⟩ := browse_concat_eq_ok hnext
  obtain rfl : viewer = same := Except.ok.inj (hviewer.symm.trans hsame)
  rw [List.append_assoc] at h
  refine ⟨before, viewer, ?_, hviewer, ?_⟩
  · rw [List.append_assoc]
    exact List.prefix_append _ _
  · rw [displays_browse_iff hviewer]
    rcases h before after width' height' rfl with hwider | hlower
    · rw [← width_browse hviewer] at hwider
      exact absurd hpass (hready.not_passesBy_of_wider hstep hwider place)
    · have hcount : 0 < source.rowCount := by
        have hlt := lt_of_mem_rowsShown hpass.1
        rw [(hready.step hstep).sound.table] at hlt
        omega
      rw [← RowWindow.height_after source.rowCount, ← rowWindow_browse hviewer] at hlower
      exact hready.inWindow_of_lower hstep (inside_or_beyond_browse hcount hviewer) hlower hpass

/-- **A run computes what it displays and what it passes.** A cell that no message copies is
computed exactly if some window of the run displayed it, or if some resizing passed it on
its way to the cursor column. So a run computes nothing that was never displayed exactly
if whatever it passed was displayed; a run in which no screen gets narrower and higher at
once is one of these. -/
theorem asked_iff_displayed_or_passed (hcopy : .copyCell ∉ messages)
    (h : browse name clipboard source earlier width height messages = .ok viewer) :
    (∀ place, place ∈ viewer.table.asked ↔
      DisplayedBy (browse name clipboard source earlier width height) messages place ∨
        PassedBy (browse name clipboard source earlier width height) messages place) ∧
    ((∀ place ∈ viewer.table.asked,
        DisplayedBy (browse name clipboard source earlier width height) messages place) ↔
      ∀ place, PassedBy (browse name clipboard source earlier width height) messages place →
        DisplayedBy (browse name clipboard source earlier width height) messages place) ∧
    (NarrowsNoHigher width height messages → ∀ place ∈ viewer.table.asked,
      DisplayedBy (browse name clipboard source earlier width height) messages place) := by
  have hasked := (asked_browse hcopy h).2
  have hiff : (∀ place ∈ viewer.table.asked,
        DisplayedBy (browse name clipboard source earlier width height) messages place) ↔
      ∀ place, PassedBy (browse name clipboard source earlier width height) messages place →
        DisplayedBy (browse name clipboard source earlier width height) messages place := by
    constructor
    · intro hdisplayed place hpassed
      exact hdisplayed place ((hasked place).mpr (.inr hpassed))
    · intro hpassed place hplace
      exact ((hasked place).mp hplace).elim id (hpassed place)
  refine ⟨hasked, hiff, fun hnarrows => hiff.mpr fun place hpassed => ?_⟩
  exact hnarrows.displayedBy_of_passedBy hpassed

/-- A screen that gets higher, then narrower, and then wider again. -/
theorem asked_iff_displayed_or_passed_resized :
    ∃ viewer, browse "" none (.grid 9 3) [] 80 4
        [.moveDown 3, .moveRight, .resize 80 9, .resize 40 5, .resize 60 5] = .ok viewer ∧
      ∀ place ∈ viewer.table.asked, DisplayedBy (browse "" none (.grid 9 3) [] 80 4)
        [.moveDown 3, .moveRight, .resize 80 9, .resize 40 5, .resize 60 5] place := by
  have hok : (browse "" none (.grid 9 3) [] 80 4
      [.moveDown 3, .moveRight, .resize 80 9, .resize 40 5, .resize 60 5]).isOk = true := by cbv
  obtain ⟨viewer, h⟩ := exists_eq_ok_of_isOk hok
  have hnarrows : NarrowsNoHigher 80 4 ([] ++ [.moveDown 3] ++ [.moveRight] ++ [.resize 80 9] ++
      [.resize 40 5] ++ [.resize 60 5]) := by
    refine (((((narrowsNoHigher_nil 80 4).concat ?_).concat ?_).concat ?_).concat ?_).concat ?_
    all_goals
      intro width' height' hmessage
      cases hmessage
    all_goals decide
  exact ⟨viewer, h, (asked_iff_displayed_or_passed (by decide) h).2.2 hnarrows⟩

/-- On a screen that gets narrower and higher at once, the second row comes into view while
the cursor column does not fit: the cell in front of it is computed and never displayed. -/
theorem cell_asked_unseen :
    ∃ viewer, browse "" none (.grid 2 2) [] 80 3 [.moveRight, .resize 10 4] = .ok viewer ∧
      (1, 0) ∈ viewer.table.asked ∧
      ¬DisplayedBy (browse "" none (.grid 2 2) [] 80 3) [.moveRight, .resize 10 4] (1, 0) := by
  have hc : (Source.grid 2 2).Complete := ⟨Source.answers_grid 2 2, by decide, by decide, by decide⟩
  have hfits : ∀ message ∈ [Message.moveRight, .resize 10 4], message.Fits (.grid 2 2) := by
    simp only [List.mem_cons, List.not_mem_nil, or_false, forall_eq_or_imp, forall_eq, Message.Fits]
    decide
  obtain ⟨next, h⟩ : ∃ next, browse "" none (.grid 2 2) [] 80 3
      ([] ++ [.moveRight] ++ [.resize 10 4]) = .ok next := exists_browse hc (by decide) hfits
  obtain ⟨viewer, hviewer, -⟩ := browse_concat_eq_ok h
  obtain ⟨first, hfirst, -⟩ := browse_concat_eq_ok hviewer
  have hready := ready_browse h
  have hcursor : next.cursorColumn = 2 := (cursorColumn_browse h).trans (by decide)
  have hoffset : next.offsetColumn = 2 := by
    have hle := hready.cursor.offset
    have hge := hready.cursor.first
    refine Decidable.byContradiction fun hne => ?_
    -- from the first column on, only that column would fit
    have hlayout := hready.current.layout_source hready.sound
    rw [width_browse h, show next.offsetColumn = 1 from by omega] at hlayout
    have hshown : next.shown = [0, 1] := (Except.ok.inj hlayout).symm
    have hmem := hready.cursor.mem (hcursor ▸ Nat.le_refl 2)
    rw [hshown, hcursor] at hmem
    exact absurd hmem (by decide)
  refine ⟨next, h, ?_, ?_⟩
  · have hoffset' : viewer.offsetColumn = 1 := by
      have hmap : (browse "" none (.grid 2 2) [] 80 3 ([] ++ [.moveRight])).map offsetColumn =
          .ok 1 := by cbv
      rw [hviewer] at hmap
      exact Except.ok.inj hmap
    refine ((asked_browse (by decide) h).2 (1, 0)).mpr (.inr ?_)
    exact ⟨[] ++ [.moveRight], 10, 4, viewer, next, List.prefix_refl _, hviewer, h,
      (mem_rowsShown_browse h).mpr (by decide), by omega, by omega⟩
  · show ¬DisplayedBy _ ([] ++ [.moveRight] ++ [.resize 10 4]) (1, 0)
    rw [displayedBy_concat h, displayedBy_concat hviewer, displayedBy_nil hfirst,
      displays_browse_iff hfirst, displays_browse_iff hviewer, displays_browse_iff h]
    rintro ((⟨hrow, -⟩ | ⟨hrow, -⟩) | ⟨-, hcolumn⟩)
    · exact absurd ((mem_rowsShown_browse hfirst).mp hrow) (by decide)
    · exact absurd ((mem_rowsShown_browse hviewer).mp hrow) (by decide)
    · have hlaid := hready.cursor.toPlaced.laidOut hready.sound hready.current
        (hcursor ▸ Nat.le_refl 2)
      rw [hlaid.mem_iff (by decide), hoffset] at hcolumn
      exact absurd hcolumn.1 (by decide)

end Viewer

end AttributeBrowser
