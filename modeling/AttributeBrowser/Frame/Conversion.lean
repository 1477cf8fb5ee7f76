import AttributeBrowser.Frame.CellText

/-!
# Converting columns

A column as texts and a column as whole numbers of 64 bits. An empty cell stays
empty; a cell that denotes no whole number becomes empty. Bytes convert to text
only if all of them are text, and to numbers never. Other kinds convert as the library
says.
-/

namespace AttributeBrowser

namespace Conversion

/-! ## To text -/

/-- The exponents for which a format writes shortest digits without an exponent:
the last place of the point before and behind the first digit. -/
structure PositionalRange where
  last : Int
  first : Int

/-- Numbers of the larger format are positional from `10 ^ -5` to below `10 ^ 16`, of
the smaller one from `10 ^ -6` to below `10 ^ 13`. -/
def positionalRange (format : FloatFormat) : PositionalRange :=
  if format = .binary32 then ⟨13, -6⟩ else ⟨16, -5⟩

/-- The shortest digits that the format reads back; a whole number has one place. -/
def floatText (format : FloatFormat) : FloatValue → String
  | .nan => "NaN"
  | .infinite negative => CellText.signText negative ++ "inf"
  | .finite negative mantissa exponent =>
    CellText.signText negative ++
      if mantissa = 0 then "0.0"
      else
        let decimal := Decimal.shortest format .even mantissa exponent
        let range := positionalRange format
        let place := decimal.pointPlace
        if range.first < place ∧ place ≤ range.last then
          if 0 ≤ decimal.exponent then decimal.positional ++ ".0" else decimal.positional
        else decimal.scientific

/-- All texts, or nothing if one is missing. -/
def bytesText (cell : Option ByteArray) : Except FrameReason (Option String) :=
  match cell with
  | none => .ok none
  | some bytes =>
    match String.fromUTF8? bytes with
    | some text => .ok (some text)
    | none => .error .invalidText

/-! ## To whole numbers -/

/-- A whole number of 64 bits. -/
def inRange (value : Int) : Option Int := if CellText.fitsNumber value then some value else none

/-- The number of a text of decimal digits. -/
def digits? : List Char → Option Nat
  | [] => none
  | digits =>
    if digits.all Char.isDigit then
      some (digits.foldl (fun n c => 10 * n + (c.toNat - '0'.toNat)) 0)
    else none

/-- An optional sign and decimal digits. -/
def textInteger (text : String) : Option Int :=
  match text.toList with
  | '-' :: rest => (digits? rest).map fun n => -(n : Int)
  | '+' :: rest => (digits? rest).map fun n => (n : Int)
  | rest => (digits? rest).map fun n => (n : Int)

/-- Truth as one, falsehood as zero. -/
def boolInteger : Bool → Int
  | true => 1
  | false => 0

end Conversion

/-- The cells of a column as texts. -/
def ColumnCells.toTexts : ColumnCells → Except FrameReason (Array (Option String))
  | .integers _ cells => .ok (cells.map (·.map Int.repr))
  | .floats format cells => .ok (cells.map (·.map (Conversion.floatText format)))
  | .booleans cells => .ok (cells.map (·.map CellText.ofBool))
  | .texts cells => .ok cells
  | .dates cells => .ok (cells.map (·.map CellText.ofDays))
  | .binaries cells => cells.mapM Conversion.bytesText
  | .others kind cells =>
    match kind.noTexts with
    | some reason => .error reason
    | none => .ok (cells.map (·.bind OtherValue.text?))
  | .empties count => .ok (Array.replicate count none)

/-- The cells of a column as whole numbers of 64 bits. -/
def ColumnCells.toIntegers : ColumnCells → Except FrameReason (Array (Option Int))
  | .integers _ cells => .ok (cells.map (·.bind Conversion.inRange))
  | .floats _ cells => .ok (cells.map (·.bind fun x => x.truncate?.bind Conversion.inRange))
  | .booleans cells => .ok (cells.map (·.map Conversion.boolInteger))
  | .texts cells => .ok (cells.map (·.bind fun s => (Conversion.textInteger s).bind Conversion.inRange))
  | .dates cells => .ok cells
  | .binaries _ => .error .notConvertible
  | .others kind cells =>
    match kind.noNumbers with
    | some reason => .error reason
    | none => .ok (cells.map (·.bind fun value => value.number?.bind Conversion.inRange))
  | .empties count => .ok (Array.replicate count none)

end AttributeBrowser
