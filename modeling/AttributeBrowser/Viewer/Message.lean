/-!
# Messages and keys

What a viewer can be told, and which key says it.
-/

namespace AttributeBrowser

/-- What a viewer can be told. -/
inductive Message
  | quit
  | moveUp (rows : Nat)
  | moveDown (rows : Nat)
  | pageUp
  | pageDown
  | moveLeft
  | moveRight
  | moveBeginning
  | moveEnd
  | followLink
  | copyCell
  | resize (width height : Nat)
deriving DecidableEq, Repr

/-- A key of the keyboard. -/
inductive Key
  | char (c : Char)
  | up
  | down
  | left
  | right
  | pageUp
  | pageDown
  | home
  | «end»
  | enter
  | escape
  | backspace
  | tab
  | backTab
  | delete
  | insert
  | null
  | function (number : Nat)
deriving DecidableEq, Repr

/-- What a pressed key tells the viewer. -/
def Key.message? : Key → Option Message
  | .char 'q' | .escape => some .quit
  | .up | .char 'k' => some (.moveUp 1)
  | .down | .char 'j' => some (.moveDown 1)
  | .left | .char 'h' => some .moveLeft
  | .right | .char 'l' => some .moveRight
  | .pageUp => some .pageUp
  | .pageDown => some .pageDown
  | .home | .char 'g' => some .moveBeginning
  | .end | .char 'G' => some .moveEnd
  | .enter => some .followLink
  | .char 'y' => some .copyCell
  | _ => none

end AttributeBrowser
