import AttributeBrowser.Number.Rounding
import AttributeBrowser.Screen.Line

/-!
# Where columns stand

Columns stand side by side with one blank between neighbours. If they do not fit,
the narrow ones keep their widths and the others share what is left evenly; shares
are fractions, and each edge is rounded to a square.
-/

namespace AttributeBrowser

namespace Columns

/-- The blank squares between neighbours. -/
def spacing : Nat := 1

/-- What all columns take together with the blanks between them. -/
def total (widths : List Nat) : Nat := widths.foldr (· + ·) 0 + spacing * (widths.length - 1)

/-- The even share of the columns that cannot keep their widths, as a fraction: the
narrowest column, of `count` that are left, keeps its width if that is no more than an
even share of the room left. -/
def share (count room : Nat) : List Nat → Nat × Nat
  | [] => (room, max count 1)
  | width :: rest =>
    if width * count ≤ room then share (count - 1) (room - width) rest else (room, count)

/-- The edges of columns in units of `1 / den`, from the position `x` on. -/
def edges (den : Nat) : Nat → List Nat → List Area
  | _, [] => []
  | x, width :: rest =>
    ⟨Rounding.halfUp x den, Rounding.halfUp (x + width) den⟩
      :: edges den (x + width + spacing * den) rest

/-- The areas of columns of given widths in a line of `width` squares. -/
def areas (width : Nat) (widths : List Nat) : List Area :=
  if total widths ≤ width then edges 1 0 widths
  else
    let room := width - spacing * (widths.length - 1)
    let (num, den) := share widths.length room (widths.mergeSort (· ≤ ·))
    (edges den 0 (widths.map fun w => min (w * den) num)).map fun area =>
      ⟨min area.start width, min area.stop width⟩

end Columns

end AttributeBrowser
