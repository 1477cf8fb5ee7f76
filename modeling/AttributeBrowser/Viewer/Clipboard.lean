/-!
# Clipboards

Where the text of a cell is copied to. A clipboard takes a text or refuses it, and it may
do the one today and the other tomorrow; what it makes of a text is only told by the texts
that it was given before. There may also be no clipboard at all.
-/

namespace AttributeBrowser

/-- A clipboard. -/
structure Clipboard where
  /-- Whether a text is taken, after the ones given before. -/
  takes : List String → String → Bool
  /-- The texts given to it, latest first. -/
  given : List String := []

/-- What comes of copying a text. -/
inductive CopyOutcome
  | noClipboard
  | copied
  | refused
deriving DecidableEq, Repr

/-- What is said of it. -/
def CopyOutcome.message : CopyOutcome → String
  | .noClipboard => "No clipboard available"
  | .copied => "Copied cell content to clipboard."
  | .refused => "Copying to clipboard failed"

namespace Clipboard

/-- Gives a text to a clipboard, if there is one. -/
def copy (text : String) : Option Clipboard → CopyOutcome × Option Clipboard
  | none => (.noClipboard, none)
  | some clipboard =>
    (if clipboard.takes clipboard.given text then .copied else .refused,
      some { clipboard with given := text :: clipboard.given })

end Clipboard

end AttributeBrowser
