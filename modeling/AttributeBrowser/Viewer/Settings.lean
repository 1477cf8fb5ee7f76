/-!
# Settings

What a user can set for a viewer.
-/

namespace AttributeBrowser

/-- How long to wait for a key, in milliseconds, and the width that no column exceeds. -/
structure Settings where
  pollTime : Nat := 100
  maxColumnWidth : Nat := 40
deriving DecidableEq, Repr

end AttributeBrowser
