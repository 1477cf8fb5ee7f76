import AttributeBrowser.Text.Grapheme

/-!
# Lines of a screen

A line of a screen is a list of squares, each with a symbol and a style. A wide
symbol covers the squares behind it. Text is written into a given number of
squares, grapheme by grapheme, from the left or against the right edge, and what
does not fit is cut off.
-/

namespace AttributeBrowser

/-- The colours that the viewer draws with. -/
inductive Color
  | plain
  | blue
  | yellow
  | darkGray
deriving DecidableEq, Repr

/-- How a square is drawn. -/
structure Style where
  color : Color := .plain
  bold : Bool := false
  dim : Bool := false
  underlined : Bool := false
  reversed : Bool := false
deriving DecidableEq, Repr

/-- A style with another one on top. -/
def Style.patch (style top : Style) : Style where
  color := if top.color = .plain then style.color else top.color
  bold := style.bold || top.bold
  dim := style.dim || top.dim
  underlined := style.underlined || top.underlined
  reversed := style.reversed || top.reversed

/-- One square of a screen. -/
structure Square where
  symbol : String := " "
  /-- The number of squares that the symbol covers. -/
  width : Nat := 1
  style : Style := {}
deriving DecidableEq, Repr

/-- The squares from `start` up to but not including `stop`. -/
structure Area where
  start : Nat
  stop : Nat
deriving DecidableEq, Repr

namespace Line

/-- So many squares with nothing in them. -/
def blanks (count : Nat) : List Square := List.replicate count {}

/-- A symbol and the squares it covers, in reverse. -/
def covered (symbol : String) (width : Nat) : List Square :=
  blanks (width - 1) ++ [{ symbol := symbol, width := width }]

/-- Writes graphemes into so many squares, of which `used` are written, in reverse.
One without a width goes with the square before it; at the start of the line it waits
for the first one with a width. -/
def place (room : Nat) : Nat → String → List Square → List (String × Nat) → List Square
  | used, waiting, done, [] => if used = 0 ∧ waiting ≠ "" then [{ symbol := waiting }] else done
  | used, waiting, done, (symbol, width) :: rest =>
    if room < used + width then
      if used = 0 ∧ waiting ≠ "" then [{ symbol := waiting }] else done
    else if used = 0 then
      if width = 0 then place room 0 (waiting ++ symbol) done rest
      else place room width "" (covered (waiting ++ symbol) width) rest
    else if width = 0 then
      match done with
      | last :: before =>
        place room used "" ({ last with symbol := last.symbol ++ symbol } :: before) rest
      | [] => place room used "" [] rest
    else place room (used + width) "" (covered symbol width ++ done) rest

/-- Squares up to a number of them. -/
def pad (room : Nat) (squares : List Square) : List Square :=
  (squares ++ blanks (room - squares.length)).take room

/-- A text from the left edge on. -/
def writeLeft (room : Nat) (graphemes : List (String × Nat)) : List Square :=
  if room = 0 then [] else pad room (place room 0 "" [] graphemes).reverse

/-- The places that graphemes take. -/
def places (graphemes : List (String × Nat)) : Nat := (graphemes.map (·.2)).foldr (· + ·) 0

/-- The graphemes at the end of a text that fit. -/
def fitting (room : Nat) : List (String × Nat) → List (String × Nat)
  | [] => []
  | grapheme :: rest =>
    if places (grapheme :: rest) ≤ room then grapheme :: rest else fitting room rest

/-- A text up to the right edge. -/
def writeRight (room : Nat) (graphemes : List (String × Nat)) : List Square :=
  let graphemes := fitting room graphemes
  let indent := room - places graphemes
  blanks indent ++ writeLeft (room - indent) graphemes

/-- The line in which each area holds its squares and all else is blank, from the
square `x` on. -/
def arrange (width : Nat) : Nat → List (Area × List Square) → List Square
  | x, [] => blanks (width - x)
  | x, (area, squares) :: rest =>
    blanks (area.start - x) ++ pad (area.stop - area.start) squares
      ++ arrange width (max x area.stop) rest

/-- A style on top of the squares of an area. -/
def styleArea (area : Area) (style : Style) (line : List Square) : List Square :=
  line.mapIdx fun x square =>
    if area.start ≤ x ∧ x < area.stop then { square with style := square.style.patch style }
    else square

/-! ## Reading a line -/

/-- The squares that no symbol before them covers; `hidden` squares are covered yet. -/
def uncovered : Nat → List Square → List Square
  | _, [] => []
  | hidden + 1, _ :: rest => uncovered hidden rest
  | 0, square :: rest => square :: uncovered (square.width - 1) rest

/-- The text of a line. -/
def text (line : List Square) : String := String.join ((uncovered 0 line).map (·.symbol))

/-- The styles of the squares; a covered square has the style of its symbol. -/
def styles : Nat → Style → List Square → List Style
  | _, _, [] => []
  | hidden + 1, style, _ :: rest => style :: styles hidden style rest
  | 0, _, square :: rest => square.style :: styles (square.width - 1) square.style rest

/-- Runs of equal styles: the first square, the number of squares and the style. -/
def runsFrom (x : Nat) : List Style → List (Nat × Nat × Style)
  | [] => []
  | style :: rest =>
    match runsFrom (x + 1) rest with
    | (start, length, next) :: runs =>
      if style = next ∧ start = x + 1 then (x, length + 1, style) :: runs
      else (x, 1, style) :: (start, length, next) :: runs
    | [] => [(x, 1, style)]

/-- The runs of styles other than the plain one. -/
def runs (line : List Square) : List (Nat × Nat × Style) :=
  (runsFrom 0 (styles 0 {} line)).filter fun run => run.2.2 ≠ {}

end Line

end AttributeBrowser
