import AttributeBrowser.Proofs.ClassFile.Labels
import AttributeBrowser.Proofs.Viewer.Ready

/-!
# The links followed

A viewer records the targets of the links that it follows. A message to follow a link
does one of three things (`Follows`): there is no place under the cursor and nothing
changes; the cell there is no link and the viewer says so; or the target of the link is
recorded, and named. No other message touches the record. So the record of a run is the
list of the targets under the cursor at the messages that follow (`targetsFollowed`). What
is said of a target names this one and no other (`Names`).
-/

namespace AttributeBrowser

namespace Viewer

variable {source : Source} {viewer next : Viewer}

/-- The targets of the links followed, in the order in which they were followed. -/
def history (viewer : Viewer) : List LinkTarget := viewer.followed.reverse

/-- Where the link under the cursor leads, if the table has such a place and its cell is a
link. Columns of the source do not count the row numbers. -/
def targetHere (viewer : Viewer) : Option LinkTarget :=
  if viewer.OnTable then
    match viewer.table.source.linkTarget viewer.window.absoluteRow (viewer.cursorColumn - 1) with
    | .ok target => target
    | .error _ => none
  else none

/-- The message says that this target was followed: an entry of the constant pool is named by
its index behind a number sign, a program counter by its number. -/
def Names (message : String) : LinkTarget → Prop
  | .constantPool index => message = "Followed link to cp_info #" ++ index.toNat.repr
  | .code pc => message = "Followed link to pc " ++ pc.toNat.repr

theorem names_iff {message : String} {target : LinkTarget} :
    Names message target ↔ message = "Followed link to " ++ target.text := by
  cases target with
  | constantPool index =>
    rw [Names, LinkTarget.text, ← String.append_assoc]
    rfl
  | code pc =>
    rw [Names, LinkTarget.text, ← String.append_assoc]
    rfl

/-- A message names one target at most. -/
theorem Names.unique {message : String} {target other : LinkTarget} (h : Names message target)
    (h' : Names message other) : other = target := by
  rw [names_iff] at h h'
  have htext := congrArg String.toList (h'.symm.trans h)
  rw [String.toList_append, String.toList_append, List.append_cancel_left_eq,
    String.toList_inj] at htext
  exact LinkTarget.text_inj.mp htext

/-- The targets under the cursor of a viewer, each at a message that follows a link. -/
def targetsFollowed (viewer : Viewer) : List Message → List LinkTarget
  | [] => []
  | message :: messages =>
    match viewer.update message with
    | .error _ => []
    | .ok next =>
      (if message = .followLink then viewer.targetHere.toList else []) ++
        next.targetsFollowed messages

/-- All that following a link can do, or trying to: the cursor and the window stay. -/
inductive Follows (viewer : Viewer) : Viewer → Prop
  /-- There is no place under the cursor. -/
  | nowhere (hplace : ¬viewer.OnTable) : Follows viewer viewer
  /-- The cell under the cursor leads nowhere. -/
  | noLink (hplace : viewer.OnTable)
      (hlink : viewer.table.source.linkTarget viewer.window.absoluteRow
        (viewer.cursorColumn - 1) = .ok none) :
      Follows viewer (viewer.say "No link in this cell")
  | link {target : LinkTarget} (hplace : viewer.OnTable)
      (hlink : viewer.table.source.linkTarget viewer.window.absoluteRow
        (viewer.cursorColumn - 1) = .ok (some target)) :
      Follows viewer
        (Viewer.say { viewer with followed := target :: viewer.followed }
          ("Followed link to " ++ target.text))

theorem Follows.history_eq (h : Follows viewer next) :
    next.history = viewer.history ++ viewer.targetHere.toList := by
  cases h with
  | nowhere hplace => simp [targetHere, hplace]
  | noLink hplace hlink => simp [targetHere, hplace, hlink, history, say]
  | link hplace hlink => simp [targetHere, hplace, hlink, history, say]

/-- After following, the status line names the last target of the record, and no other one. -/
theorem Follows.names_last {target : LinkTarget} (h : Follows viewer next)
    (htarget : viewer.targetHere = some target) :
    next.history.getLast? = some target ∧ Names next.window.message target ∧
      ∀ other, Names next.window.message other → other = target := by
  cases h with
  | nowhere hplace => simp [targetHere, hplace] at htarget
  | noLink hplace hlink => simp [targetHere, hplace, hlink] at htarget
  | @link found hplace hlink =>
    obtain rfl : found = target := by simpa [targetHere, hplace, hlink] using htarget
    have hnames : Names ("Followed link to " ++ found.text) found := names_iff.mpr rfl
    exact ⟨by simp [history, say], hnames, fun other hother => hnames.unique hother⟩

/-- On a cell that leads nowhere, the status line says so and the record stays. -/
theorem Follows.says_no_link (h : Follows viewer next) (hplace : viewer.OnTable)
    (htarget : viewer.targetHere = none) :
    next.window.message = "No link in this cell" ∧ next.history = viewer.history := by
  cases h with
  | nowhere hnowhere => exact absurd hplace hnowhere
  | noLink _ _ => exact ⟨rfl, rfl⟩
  | link hplace hlink => simp [targetHere, hplace, hlink] at htarget

/-! ## One message -/

/-- No message but one touches the record. -/
theorem Step.followed_eq {message : Message} (h : Step viewer message next)
    (hmessage : message ≠ .followLink) : next.followed = viewer.followed := by
  cases h with
  | quit => rfl
  | rows _ hshow => exact (samePlace_refresh hshow).followed
  | sameRows _ _ => rfl
  | left _ hshow => exact (samePlace_refresh hshow).followed
  | firstColumn _ => rfl
  | right _ hshow hscroll =>
    exact (samePlace_scrollToCursor hscroll).followed.trans (samePlace_refresh hshow).followed
  | lastColumn _ => rfl
  | follow _ _ => exact absurd rfl hmessage
  | copy _ _ _ => rfl
  | noPlace _ _ => rfl
  | resize hshow hscroll =>
    exact (samePlace_scrollToCursor hscroll).followed.trans (samePlace_refresh hshow).followed

/-- The row that the window names is the row of the cursor. -/
theorem Ready.absoluteRow_eq (h : Ready source viewer) :
    viewer.window.absoluteRow = viewer.rowWindow.selected :=
  (h.current.exact h.sound).absoluteRow

/-- **Following a link** asks the source for the target of the cell under the cursor. -/
theorem Ready.follows (h : Ready source viewer) (hstep : Step viewer .followLink next) :
    Follows viewer next := by
  cases hstep with
  | rows hmessage _ => exact absurd hmessage id
  | sameRows hmessage _ => exact absurd hmessage id
  | noPlace hplace _ => exact .nowhere hplace
  | @follow done followed hplace hfollow =>
    rw [← h.absoluteRow_eq] at hfollow
    have hfirst : 1 ≤ viewer.cursorColumn := Nat.le_trans h.cursor.first h.cursor.offset
    obtain ⟨column, hcolumn⟩ := Nat.exists_eq_add_of_le' hfirst
    have hsource : viewer.cursorColumn - 1 = column := Nat.sub_eq_of_eq_add hcolumn
    rw [hcolumn] at hfollow
    simp only [TableView.follow] at hfollow
    split at hfollow
    · cases hfollow
    · rename_i target hlink
      cases hfollow
      rw [← hsource] at hlink
      exact .link hplace hlink
    · rename_i hlink
      cases hfollow
      rw [← hsource] at hlink
      exact .noLink hplace hlink

/-- **One message** adds the target under the cursor if it follows a link, and nothing else. -/
theorem Ready.history_eq {message : Message} (h : Ready source viewer)
    (hstep : Step viewer message next) :
    next.history =
      viewer.history ++ if message = .followLink then viewer.targetHere.toList else [] := by
  by_cases hmessage : message = .followLink
  · subst hmessage
    rw [if_pos rfl]
    exact (h.follows hstep).history_eq
  · rw [if_neg hmessage, List.append_nil, history, hstep.followed_eq hmessage, history]

/-! ## Runs -/

/-- A run adds the targets followed on the way. -/
theorem Ready.history_run {messages : List Message} (h : Ready source viewer)
    (hrun : viewer.run messages = .ok next) :
    next.history = viewer.history ++ viewer.targetsFollowed messages := by
  induction messages generalizing viewer with
  | nil =>
    cases hrun
    exact (List.append_nil _).symm
  | cons message rest ih =>
    obtain ⟨middle, hupdate, hrest⟩ := bind_eq_ok_iff.mp hrun
    have hstep := Step.of_update hupdate
    rw [ih (h.step hstep) hrest, h.history_eq hstep, List.append_assoc]
    simp only [targetsFollowed, hupdate]

theorem history_browse_nil {name : String} {clipboard : Option Clipboard} {earlier : List Nat}
    {width height : Nat} (h : browse name clipboard source earlier width height [] = .ok viewer) :
    viewer.history = [] := by
  obtain ⟨numbers, sized, -, hsized, -, hrun⟩ := browse_eq_ok_iff.mp h
  cases hrun
  have hfollowed := (Step.of_resize hsized).followed_eq Message.noConfusion
  exact congrArg List.reverse hfollowed

/-- **The history of a run** is the list of the targets under the cursor at the messages that
follow a link. It only grows, and a message does not touch it unless it follows a link;
that one leaves the cursor and the window where they are, records the target of the cell
under the cursor if it has one, and says what it did. If there is a target, the status line
then names the last one of the history and no other; if the cell has none, it says so, and
the history is what it was. -/
theorem history_records_followed {name : String} {clipboard : Option Clipboard} {source : Source}
    {earlier : List Nat} {width height : Nat} {messages : List Message}
    (h : browse name clipboard source earlier width height messages = .ok viewer) :
    (∃ first, browse name clipboard source earlier width height [] = .ok first ∧
      viewer.history = first.targetsFollowed messages) ∧
    (∀ before shorter, before <+: messages →
      browse name clipboard source earlier width height before = .ok shorter →
      shorter.history <+: viewer.history) ∧
    (∀ message next, viewer.update message = .ok next →
      if message = .followLink then Follows viewer next else next.history = viewer.history) ∧
    ∀ next, viewer.update .followLink = .ok next →
      (∀ target, viewer.targetHere = some target → next.history.getLast? = some target ∧
        Names next.window.message target ∧
        ∀ other, Names next.window.message other → other = target) ∧
      (viewer.OnTable → viewer.targetHere = none →
        next.window.message = "No link in this cell" ∧ next.history = viewer.history) := by
  refine ⟨?_, ?_, ?_, ?_⟩
  · obtain ⟨first, hfirst, hrun⟩ := (browse_append_eq_ok_iff []).mp h
    have hhistory := (ready_browse hfirst).history_run hrun
    rw [history_browse_nil hfirst, List.nil_append] at hhistory
    exact ⟨first, hfirst, hhistory⟩
  · rintro before shorter ⟨after, rfl⟩ hshorter
    obtain ⟨middle, hmiddle, hrun⟩ := (browse_append_eq_ok_iff before).mp h
    obtain rfl : middle = shorter := Except.ok.inj (hmiddle.symm.trans hshorter)
    exact ⟨_, ((ready_browse hshorter).history_run hrun).symm⟩
  · intro message next hupdate
    have hstep := Step.of_update hupdate
    split
    · rename_i hmessage
      subst hmessage
      exact (ready_browse h).follows hstep
    · rename_i hmessage
      exact congrArg List.reverse (hstep.followed_eq hmessage)
  · intro next hupdate
    have hfollows := (ready_browse h).follows (Step.of_update hupdate)
    exact ⟨fun target htarget => hfollows.names_last htarget,
      fun hplace htarget => hfollows.says_no_link hplace htarget⟩

/-- A program counter is followed, then the class that the second handler catches, and then
nothing, since the first one catches any. -/
theorem history_records_followed_catch_any :
    ∃ viewer, browse "" none .twoHandlers [] 99 3 [.followLink, .moveEnd, .moveRight,
        .moveRight, .moveRight, .followLink, .moveUp 1, .followLink] = .ok viewer ∧
      viewer.history = [.code 0, .constantPool 7] := by
  have htargets : (browse "" none .twoHandlers [] 99 3 []).map (·.targetsFollowed [.followLink,
      .moveEnd, .moveRight, .moveRight, .moveRight, .followLink, .moveUp 1, .followLink]) =
        .ok [.code 0, .constantPool 7] := by cbv
  have hok : (browse "" none .twoHandlers [] 99 3 [.followLink, .moveEnd, .moveRight,
      .moveRight, .moveRight, .followLink, .moveUp 1, .followLink]).isOk = true := by cbv
  obtain ⟨viewer, h⟩ := exists_eq_ok_of_isOk hok
  obtain ⟨⟨first, hfirst, hhistory⟩, -⟩ := history_records_followed h
  rw [hfirst] at htargets
  exact ⟨viewer, h, hhistory.trans (Except.ok.inj htargets)⟩

end Viewer

end AttributeBrowser
