import AttributeBrowser.Screen.Basic
import AttributeBrowser.Viewer.Session

/-!
# The screens of a session

The viewers that a session draws, as they appear one after the other on a screen of
one size. The pane of the table goes on from one drawing to the next.
-/

namespace AttributeBrowser

/-- The screens of some viewers, drawn one after the other. -/
def Screen.sequence (width height : Nat) : PaneState → List Viewer → List Screen
  | _, [] => []
  | state, viewer :: viewers =>
    let (screen, state) := viewer.draw width height state
    screen :: sequence width height state viewers

/-- The screens of a session. -/
def Session.screens (session : Session) (width height : Nat) : List Screen :=
  Screen.sequence width height {} session.drawn

end AttributeBrowser
