import AttributeBrowser.Proofs.Viewer.Steps
import AttributeBrowser.Viewer.Session

/-!
# Sessions apply messages up to the first one to quit

`viewerAfter` is the viewer that the messages of some events lead to, as long as none of
them is to quit and none faults. A session draws these viewers one after the other, each
before the poll that brings the next event (`AppliesUntilQuit`), and it ends where the next
one is missing: right behind the event that tells the viewer to quit, or behind a fault.
What a session has done stays when more events come, so all this holds of events without
end too.
-/

namespace AttributeBrowser

/-- The messages of some events, in order. Events that say nothing are left out. -/
def Event.messages (events : List Event) : List Message := events.filterMap Event.message?

/-- The first events of a sequence without end. -/
def Event.firsts (events : Nat → Event) (count : Nat) : List Event :=
  (List.range count).map events

theorem Event.take_firsts (events : Nat → Event) {k count : Nat} (h : k ≤ count) :
    (firsts events count).take k = firsts events k := by
  rw [firsts, ← List.map_take, List.take_range, Nat.min_eq_left h, firsts]

namespace Viewer

variable {viewer next : Viewer} {message : Message}

/-! ## Who quits -/

/-- No message but one touches the status. -/
theorem Step.status_eq (h : Step viewer message next) (hmessage : message ≠ .quit) :
    next.status = viewer.status := by
  cases h with
  | quit => exact absurd rfl hmessage
  | rows _ hshow => exact (samePlace_refresh hshow).status
  | sameRows _ _ => rfl
  | left _ hshow => exact (samePlace_refresh hshow).status
  | firstColumn _ => rfl
  | right _ hshow hscroll =>
    exact (samePlace_scrollToCursor hscroll).status.trans (samePlace_refresh hshow).status
  | lastColumn _ => rfl
  | follow _ _ => rfl
  | copy _ _ _ => rfl
  | noPlace _ _ => rfl
  | resize hshow hscroll =>
    exact (samePlace_scrollToCursor hscroll).status.trans (samePlace_refresh hshow).status

end Viewer

namespace Session

variable {viewer middle next : Viewer} {event : Event} {before after : List Event}

theorem poll_of_quit (h : event.message? = some .quit) :
    poll viewer event = .ok { viewer with status := .quitting } := by
  simp only [poll, h, Viewer.update]

/-- A poll that does not tell a viewer to quit leaves its status. -/
theorem status_poll (h : poll viewer event = .ok next) (hquit : event.message? ≠ some .quit) :
    next.status = viewer.status := by
  unfold poll at h
  cases hmessage : event.message? with
  | none =>
    rw [hmessage] at h
    cases h
    rfl
  | some message =>
    rw [hmessage] at h hquit
    exact (Viewer.Step.of_update h).status_eq fun heq => hquit (congrArg some heq)

/-! ## One pass of the loop -/

theorem run_of_quitting (h : viewer.status = .quitting) (events : List Event) :
    run viewer events = { acts := [], outcome := .quit viewer events } := by
  unfold run
  exact if_pos h

theorem run_nil (h : viewer.status ≠ .quitting) :
    run viewer [] = { acts := [.draw viewer], outcome := .waiting viewer } := by
  unfold run
  exact if_neg h

theorem run_cons_of_error (h : viewer.status ≠ .quitting) {fault : Fault}
    (hpoll : poll viewer event = .error fault) (events : List Event) :
    run viewer (event :: events) =
      { acts := [.draw viewer, .poll event], outcome := .fault fault } := by
  rw [run, if_neg h]
  simp only [hpoll]

theorem run_cons_of_ok (h : viewer.status ≠ .quitting) (hpoll : poll viewer event = .ok next)
    (events : List Event) :
    run viewer (event :: events) = afterPoll viewer event (run next events) := by
  rw [run, if_neg h]
  simp only [hpoll]

theorem drawn_afterPoll (viewer : Viewer) (event : Event) (session : Session) :
    (afterPoll viewer event session).drawn = viewer :: session.drawn := rfl

/-! ## The viewer that the messages lead to -/

/-- The viewer after some polls, if a session comes so far: nothing has told it to quit, and
it has answered all messages, one after the other. -/
def viewerAfter (viewer : Viewer) (events : List Event) : Option Viewer :=
  if viewer.status = .quitting ∨ .quit ∈ Event.messages events then none
  else (viewer.run (Event.messages events)).toOption

theorem viewerAfter_of_quitting (h : viewer.status = .quitting) (events : List Event) :
    viewerAfter viewer events = none := if_pos (.inl h)

theorem viewerAfter_nil (h : viewer.status ≠ .quitting) : viewerAfter viewer [] = some viewer := by
  refine if_neg ?_
  simp [h, Event.messages]

theorem viewerAfter_cons (viewer : Viewer) (event : Event) (events : List Event) :
    viewerAfter viewer (event :: events) =
      (poll viewer event).toOption.bind (viewerAfter · events) := by
  by_cases hquit : event.message? = some .quit
  · -- the message is among those of the events, and the viewer polled is about to quit
    have hmem : .quit ∈ Event.messages (event :: events) := by simp [Event.messages, hquit]
    rw [poll_of_quit hquit]
    exact (if_pos (.inr hmem)).trans (viewerAfter_of_quitting rfl events).symm
  · cases hmessage : event.message? with
    | none => simp [viewerAfter, Event.messages, poll, hmessage, Except.toOption]
    | some message =>
      have hne : .quit ≠ message := by
        intro heq
        exact hquit (hmessage.trans (congrArg some heq.symm))
      cases hpoll : poll viewer event with
      | error fault =>
        have hupdate : viewer.update message = .error fault := by
          simpa only [poll, hmessage] using hpoll
        simp [viewerAfter, Event.messages, hmessage, Viewer.run, hupdate, bind, Except.bind,
          Except.toOption]
      | ok next =>
        have hupdate : viewer.update message = .ok next := by
          simpa only [poll, hmessage] using hpoll
        have hstatus := status_poll hpoll hquit
        simp [viewerAfter, Event.messages, hmessage, Viewer.run, hupdate, bind, Except.bind,
          Except.toOption, hstatus, hne]

theorem exists_poll_of_viewerAfter_cons {events : List Event}
    (h : viewerAfter viewer (event :: events) = some middle) :
    ∃ next, poll viewer event = .ok next ∧ viewerAfter next events = some middle := by
  rw [viewerAfter_cons] at h
  cases hpoll : poll viewer event with
  | error fault =>
    rw [hpoll] at h
    cases h
  | ok next =>
    rw [hpoll] at h
    exact ⟨next, rfl, h⟩

theorem status_ne_of_viewerAfter {events : List Event}
    (h : viewerAfter viewer events = some middle) : viewer.status ≠ .quitting := by
  intro hquit
  rw [viewerAfter_of_quitting hquit] at h
  cases h

/-- A viewer that a session comes to is not about to quit. -/
theorem status_ne_after (h : viewerAfter viewer before = some middle) :
    middle.status ≠ .quitting := by
  induction before generalizing viewer with
  | nil =>
    have hready := status_ne_of_viewerAfter h
    rw [viewerAfter_nil hready] at h
    cases h
    exact hready
  | cons event before ih =>
    obtain ⟨next, -, hnext⟩ := exists_poll_of_viewerAfter_cons h
    exact ih hnext

/-! ## What a session does in order -/

/-- **Drawing `k` shows the viewer after `k` polls**, if a session comes so far. -/
theorem getElem?_drawn (viewer : Viewer) (events : List Event) (k : Nat) :
    (run viewer events).drawn[k]? =
      if k ≤ events.length then viewerAfter viewer (events.take k) else none := by
  fun_induction run viewer events generalizing k with
  | case1 events viewer hquit => simp [drawn, viewerAfter_of_quitting hquit]
  | case2 viewer hready =>
    cases k <;> simp [drawn, SessionAct.viewer?, viewerAfter_nil hready]
  | case3 viewer hready event events fault hpoll =>
    cases k <;> simp [drawn, List.filterMap_cons, SessionAct.viewer?, viewerAfter_nil hready,
      viewerAfter_cons, hpoll, Except.toOption]
  | case4 viewer hready event events next hpoll ih =>
    rw [drawn_afterPoll]
    cases k with
    | zero => simp [viewerAfter_nil hready]
    | succ k => simp [ih, viewerAfter_cons, hpoll, Except.toOption]

/-- **Drawings and polls alternate**, and a drawing comes first: each poll brings the next
event right behind a drawing. -/
theorem getElem?_acts (viewer : Viewer) (events : List Event) (k : Nat) :
    (run viewer events).acts[2 * k]? = (run viewer events).drawn[k]?.map .draw ∧
      (run viewer events).acts[2 * k + 1]? =
        (run viewer events).drawn[k]?.bind fun _ => events[k]?.map .poll := by
  fun_induction run viewer events generalizing k with
  | case1 events viewer hquit => simp [drawn]
  | case2 viewer hready => cases k <;> simp [drawn, SessionAct.viewer?, Nat.mul_add]
  | case3 viewer hready event events fault hpoll =>
    cases k <;> simp [drawn, List.filterMap_cons, SessionAct.viewer?, Nat.mul_add]
  | case4 viewer hready event events next hpoll ih =>
    rw [drawn_afterPoll]
    cases k with
    | zero => simp [afterPoll]
    | succ k => simpa [afterPoll, Nat.mul_add] using ih k

/-! ## How a session ends -/

/-- How a session of a viewer ends, told by the viewers that the messages lead to. -/
inductive Ends (viewer : Viewer) (events : List Event) : SessionEnd → Prop
  /-- The viewer was about to quit before anything happened. -/
  | quitting (hquit : viewer.status = .quitting) : Ends viewer events (.quit viewer events)
  /-- An event tells the viewer to quit, and those behind it are not read. -/
  | quits {before : List Event} {event : Event} {unread : List Event} {middle : Viewer}
      (hevents : events = before ++ event :: unread) (hquit : event.message? = some .quit)
      (hbefore : viewerAfter viewer before = some middle) :
      Ends viewer events (.quit { middle with status := .quitting } unread)
  /-- All events have been read, and the viewer goes on. -/
  | waits {last : Viewer} (hevents : viewerAfter viewer events = some last) :
      Ends viewer events (.waiting last)
  | faults {before : List Event} {event : Event} {after : List Event} {middle : Viewer}
      {fault : Fault} (hevents : events = before ++ event :: after)
      (hbefore : viewerAfter viewer before = some middle)
      (hpoll : poll middle event = .error fault) : Ends viewer events (.fault fault)

/-- A longer session ends as the rest of it does, told of the viewer in between. -/
theorem outcome_run_append (h : viewerAfter viewer before = some middle) (after : List Event) :
    (run viewer (before ++ after)).outcome = (run middle after).outcome := by
  induction before generalizing viewer with
  | nil =>
    rw [viewerAfter_nil (status_ne_of_viewerAfter h)] at h
    cases h
    rfl
  | cons event before ih =>
    obtain ⟨next, hpoll, hnext⟩ := exists_poll_of_viewerAfter_cons h
    rw [List.cons_append, run_cons_of_ok (status_ne_of_viewerAfter h) hpoll]
    exact ih hnext

theorem Ends.outcome_eq {events : List Event} {outcome : SessionEnd}
    (h : Ends viewer events outcome) : (run viewer events).outcome = outcome := by
  cases h with
  | quitting hquit => rw [run_of_quitting hquit]
  | quits hevents hquit hbefore =>
    rw [hevents, outcome_run_append hbefore, run_cons_of_ok (status_ne_after hbefore)
      (poll_of_quit hquit), run_of_quitting rfl]
    rfl
  | waits hevents =>
    have happend := outcome_run_append hevents []
    rw [List.append_nil, run_nil (status_ne_after hevents)] at happend
    exact happend
  | faults hevents hbefore hpoll =>
    rw [hevents, outcome_run_append hbefore, run_cons_of_error (status_ne_after hbefore) hpoll]

/-- A poll that does not tell the viewer to quit is one more before the same end. -/
theorem Ends.cons {events : List Event} {outcome : SessionEnd} (hready : viewer.status ≠ .quitting)
    (hpoll : poll viewer event = .ok next) (hquit : event.message? ≠ some .quit)
    (h : Ends next events outcome) : Ends viewer (event :: events) outcome := by
  have hcons (rest : List Event) : viewerAfter viewer (event :: rest) = viewerAfter next rest := by
    rw [viewerAfter_cons, hpoll]
    rfl
  cases h with
  | quitting hnext =>
    rw [status_poll hpoll hquit] at hnext
    exact absurd hnext hready
  | quits hevents hmessage hbefore =>
    exact .quits (congrArg (event :: ·) hevents) hmessage ((hcons _).trans hbefore)
  | waits hevents => exact .waits ((hcons _).trans hevents)
  | faults hevents hbefore hfault =>
    exact .faults (congrArg (event :: ·) hevents) ((hcons _).trans hbefore) hfault

theorem ends_run (viewer : Viewer) (events : List Event) :
    Ends viewer events (run viewer events).outcome := by
  fun_induction run viewer events with
  | case1 events viewer hquit => exact .quitting hquit
  | case2 viewer hready => exact .waits (viewerAfter_nil hready)
  | case3 viewer hready event events fault hpoll =>
    exact .faults (List.nil_append _).symm (viewerAfter_nil hready) hpoll
  | case4 viewer hready event events next hpoll ih =>
    by_cases hquit : event.message? = some .quit
    · rw [poll_of_quit hquit] at hpoll
      cases hpoll
      rw [run_of_quitting rfl]
      exact .quits (List.nil_append _).symm hquit (viewerAfter_nil hready)
    · exact ih.cons hready hpoll hquit

/-! ## Finite and unbounded sessions -/

/-- A session draws the viewers that the messages of its events lead to, and ends where they
end. -/
structure AppliesUntilQuit (viewer : Viewer) (events : List Event) (session : Session) :
    Prop where
  /-- The first drawing shows the viewer as it is, and each later one the viewer to which the
  messages of all polls before have been applied. -/
  draws (k : Nat) : session.drawn[k]? =
    if k ≤ events.length then viewerAfter viewer (events.take k) else none
  /-- A drawing stands before each poll, which brings the next event. -/
  order (k : Nat) : session.acts[2 * k]? = session.drawn[k]?.map .draw ∧
    session.acts[2 * k + 1]? = session.drawn[k]?.bind fun _ => events[k]?.map .poll
  ends (outcome : SessionEnd) : session.outcome = outcome ↔ Ends viewer events outcome

/-- What is done at a place of the order, where polls bring events without end. -/
def actAt (viewer : Viewer) (events : Nat → Event) (place : Nat) : Option SessionAct :=
  (run viewer (Event.firsts events (place + 1))).acts[place]?

theorem drawn_firsts (viewer : Viewer) (events : Nat → Event) {k polls : Nat} (h : k ≤ polls) :
    (run viewer (Event.firsts events polls)).drawn[k]? =
      viewerAfter viewer (Event.firsts events k) := by
  rw [getElem?_drawn, if_pos, Event.take_firsts events h]
  simpa [Event.firsts] using h

theorem acts_firsts (viewer : Viewer) (events : Nat → Event) {k polls : Nat} :
    (k ≤ polls → (run viewer (Event.firsts events polls)).acts[2 * k]? =
      (viewerAfter viewer (Event.firsts events k)).map .draw) ∧
    (k < polls → (run viewer (Event.firsts events polls)).acts[2 * k + 1]? =
      (viewerAfter viewer (Event.firsts events k)).map fun _ => .poll (events k)) := by
  obtain ⟨heven, hodd⟩ := getElem?_acts viewer (Event.firsts events polls) k
  constructor
  · intro h
    rw [heven, drawn_firsts viewer events h]
  · intro h
    have hevent : (Event.firsts events polls)[k]? = some (events k) := by
      simp [Event.firsts, List.getElem?_range h]
    rw [hodd, drawn_firsts viewer events (Nat.le_of_lt h), hevent]
    cases viewerAfter viewer (Event.firsts events k) <;> rfl

/-- What has been done stays as it is when more events come. -/
theorem getElem?_acts_firsts (viewer : Viewer) (events : Nat → Event) {place polls : Nat}
    (h : place ≤ 2 * polls) :
    (run viewer (Event.firsts events polls)).acts[place]? = actAt viewer events place := by
  obtain ⟨k, hk | hk⟩ : ∃ k, place = 2 * k ∨ place = 2 * k + 1 := ⟨place / 2, by omega⟩
  · subst hk
    rw [actAt, (acts_firsts viewer events).1 (by omega), (acts_firsts viewer events).1 (by omega)]
  · subst hk
    rw [actAt, (acts_firsts viewer events).2 (by omega), (acts_firsts viewer events).2 (by omega)]

/-- **A session applies exactly the messages of its events, up to the first one to quit.** Of
any viewer and any events, the drawings show the viewers that the messages so far lead to,
each right before a poll; and the session ends directly behind the first event that tells the
viewer to quit, if it comes so far. The same holds of events without end, where every session
with the first of them is the beginning of one and the same order. -/
theorem applies_messages_until_quit (viewer : Viewer) :
    (∀ events, AppliesUntilQuit viewer events (run viewer events)) ∧
    ∀ events : Nat → Event,
      (∀ k, actAt viewer events (2 * k) =
          (viewerAfter viewer (Event.firsts events k)).map .draw ∧
        actAt viewer events (2 * k + 1) =
          (viewerAfter viewer (Event.firsts events k)).map fun _ => .poll (events k)) ∧
      ∀ polls place, place ≤ 2 * polls →
        (run viewer (Event.firsts events polls)).acts[place]? = actAt viewer events place := by
  constructor
  · intro events
    refine ⟨getElem?_drawn viewer events, getElem?_acts viewer events, fun outcome => ?_⟩
    constructor
    · intro h
      rw [← h]
      exact ends_run viewer events
    · exact Ends.outcome_eq
  · intro events
    constructor
    · intro k
      exact ⟨(acts_firsts viewer events).1 (by omega), (acts_firsts viewer events).2 (by omega)⟩
    · intro polls place h
      exact getElem?_acts_firsts viewer events h

end Session

end AttributeBrowser
