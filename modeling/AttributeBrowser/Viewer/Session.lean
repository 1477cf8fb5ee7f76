import AttributeBrowser.Viewer.Basic

/-!
# Sessions

A viewer at work: it is drawn, then the terminal is polled, then the message that
the poll brought, if any, is applied; and so on until a message makes the viewer
quit. A poll may bring nothing in time, or an event that says nothing. A session
tells what it does in order, so it can be seen what came before what.
-/

namespace AttributeBrowser

/-- What a poll of the terminal brings. -/
inductive Event
  /-- Nothing happened in time. -/
  | timeout
  /-- A key went down, or (not pressed) came up or repeated. -/
  | key (key : Key) (pressed : Bool)
  | resize (width height : Nat)
  /-- Anything else. -/
  | other
deriving DecidableEq, Repr

/-- What an event tells the viewer. -/
def Event.message? : Event → Option Message
  | .key pressed true => pressed.message?
  | .resize width height => some (.resize width height)
  | _ => none

/-- How a session stands after some events. -/
inductive SessionEnd
  /-- The viewer quit; the events after that were not read. -/
  | quit (viewer : Viewer) (unread : List Event)
  /-- The viewer was drawn and waits for the next event. -/
  | waiting (viewer : Viewer)
  /-- A message stopped with a fault. -/
  | fault (fault : Fault)

/-- What a session does, one after the other. -/
inductive SessionAct
  | draw (viewer : Viewer)
  /-- The terminal is polled and brings an event. -/
  | poll (event : Event)

/-- The viewer that is drawn, if one is. -/
def SessionAct.viewer? : SessionAct → Option Viewer
  | .draw viewer => some viewer
  | .poll _ => none

/-- A session up to its end: what it did, in order, and how it stands. -/
structure Session where
  acts : List SessionAct
  outcome : SessionEnd

namespace Session

/-- The viewers drawn, in order. -/
def drawn (session : Session) : List Viewer := session.acts.filterMap SessionAct.viewer?

/-- The session with a drawing and a poll before all else. -/
def afterPoll (viewer : Viewer) (event : Event) (session : Session) : Session :=
  { session with acts := .draw viewer :: .poll event :: session.acts }

/-- The viewer after a poll. -/
def poll (viewer : Viewer) (event : Event) : Except Fault Viewer :=
  match event.message? with
  | none => .ok viewer
  | some message => viewer.update message

/-- The session of a viewer with the events that its polls bring. -/
def run (viewer : Viewer) (events : List Event) : Session :=
  if viewer.status = .quitting then { acts := [], outcome := .quit viewer events }
  else
    match events with
    | [] => { acts := [.draw viewer], outcome := .waiting viewer }
    | event :: events =>
      match poll viewer event with
      | .error fault => { acts := [.draw viewer, .poll event], outcome := .fault fault }
      | .ok next => afterPoll viewer event (run next events)

end Session

end AttributeBrowser
