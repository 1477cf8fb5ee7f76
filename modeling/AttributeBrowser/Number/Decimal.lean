import AttributeBrowser.Number.FloatFormat

/-!
# Decimals

Decimals and how they are written: positional, with a fixed number of places, or
in scientific notation. `shortest` gives the decimal with the fewest digits that
a format reads back as the same number, the nearest one of those.
-/

namespace AttributeBrowser

/-- The decimal `digits * 10 ^ exponent`. -/
structure Decimal where
  digits : Nat
  exponent : Int
deriving DecidableEq, Repr

namespace Decimal

/-! ## Writing -/

/-- A text of `n` zeros. -/
def zeros (n : Nat) : String := String.ofList (List.replicate n '0')

/-- The number of digits in front of the point: the value is at least
`10 ^ (pointPlace - 1)` and below `10 ^ pointPlace`. -/
def pointPlace (d : Decimal) : Int := Rounding.digitCount d.digits + d.exponent

/-- All digits with the point among them, and no point in a whole number. -/
def positional (d : Decimal) : String :=
  let digits := d.digits.repr
  let place := d.pointPlace
  if 0 ≤ d.exponent then digits ++ zeros d.exponent.toNat
  else if 0 < place then
    let head := (digits.toList.take place.toNat)
    let tail := (digits.toList.drop place.toNat)
    String.ofList head ++ "." ++ String.ofList tail
  else "0." ++ zeros (-place).toNat ++ digits

/-- One digit, the point and the others if there are any, and the power of ten. -/
def scientific (d : Decimal) : String :=
  match d.digits.repr.toList with
  | [] => ""
  | first :: rest =>
    let mantissa := if rest.isEmpty then [first] else first :: '.' :: rest
    String.ofList mantissa ++ "e" ++ (d.pointPlace - 1).repr

/-- The quotient `num / den` with so many places behind the point. -/
def fixed (places num den : Nat) : String :=
  let scaled := Rounding.halfEven (num * Nat.pow 10 places) den
  let whole := (scaled / Nat.pow 10 places).repr
  let rest := (scaled % Nat.pow 10 places).repr
  if places = 0 then whole else whole ++ "." ++ zeros (places - rest.length) ++ rest

/-- The positive quotient `num / den` in scientific notation, with so many digits
behind the point. -/
def scientificFixed (places num den : Nat) : String :=
  let exponent := Rounding.floorLog10 num den
  let (num, den) := Rounding.scale 10 num den (exponent - places)
  let rounded := Rounding.halfEven num den
  let (rounded, exponent) :=
    if rounded = Nat.pow 10 (places + 1) then (rounded / 10, exponent + 1) else (rounded, exponent)
  match rounded.repr.toList with
  | [] => ""
  | first :: rest =>
    let mantissa := if rest.isEmpty then [first] else first :: '.' :: rest
    String.ofList mantissa ++ "e" ++ exponent.repr

/-! ## Shortest digits -/

/-- Which of two equally near decimals is taken. -/
inductive Tie
  | even
  | up
deriving DecidableEq, Repr

/-- The multiples of `step` next to `value`, and the bounds of what reads back as
`value`, all over one denominator; `closed` says whether the bounds count. -/
structure Grid where
  step : Nat
  value : Nat
  low : Nat
  high : Nat
  closed : Bool

/-- Whether the multiple `count * step` reads back as the value. -/
def Grid.hits (grid : Grid) (count : Nat) : Bool :=
  let point := count * grid.step
  if grid.closed then grid.low ≤ point && point ≤ grid.high
  else grid.low < point && point < grid.high

/-- The multiple of the step nearest to the value among those that read back. -/
def Grid.nearest? (grid : Grid) (tie : Tie) : Option Nat :=
  let below := grid.value / grid.step
  let above := below + 1
  match grid.hits below, grid.hits above with
  | false, false => none
  | true, false => some below
  | false, true => some above
  | true, true =>
    let rest := 2 * (grid.value % grid.step)
    if rest < grid.step then some below
    else if grid.step < rest then some above
    else match tie with
      | .up => some above
      | .even => some (if below % 2 = 0 then below else above)

/-- The grid of the multiples of `10 ^ place` around `mantissa * 2 ^ exponent`. The
number below a power of two is nearer than the one above it. -/
def Grid.at (format : FloatFormat) (mantissa : Nat) (exponent : Int) (place : Int) : Grid :=
  let atPower := mantissa = Nat.pow 2 (format.precision - 1) ∧ format.minExponent < exponent
  let (unit, den) := Rounding.scale 2 1 1 (2 - exponent)
  let (tens, ones) := Rounding.scale 10 1 1 (-place)
  let factor := unit * ones
  { step := den * tens
    value := 4 * mantissa * factor
    low := (if atPower then 4 * mantissa - 1 else 4 * mantissa - 2) * factor
    high := (4 * mantissa + 2) * factor
    closed := mantissa % 2 = 0 }

/-- Searches the coarsest grid with a number that reads back, from `place` down. -/
def search (format : FloatFormat) (tie : Tie) (mantissa : Nat) (exponent : Int) :
    Nat → Int → Decimal
  | 0, place => ⟨0, place⟩
  | tries + 1, place =>
    match (Grid.at format mantissa exponent place).nearest? tie with
    | some digits => ⟨digits, place⟩
    | none => search format tie mantissa exponent tries (place - 1)

/-- The decimal with the fewest digits that `format` reads back as
`mantissa * 2 ^ exponent`, a positive number of the format. -/
def shortest (format : FloatFormat) (tie : Tie) (mantissa : Nat) (exponent : Int) : Decimal :=
  let (num, den) := FloatValue.magnitude mantissa exponent
  search format tie mantissa exponent (format.precision + 2) (Rounding.floorLog10 num den + 1)

end Decimal

end AttributeBrowser
