import AttributeBrowser.Frame.Basic
import AttributeBrowser.Number.Calendar
import AttributeBrowser.Table.Cell

/-!
# What the cells of a frame show

The text of a cell of a frame in a table. An empty cell shows a mark, a text its
lines joined by a mark, a number its digits, and bytes a quoted form. Of other values the
text is the library's own.
-/

namespace AttributeBrowser

namespace CellText

/-- Stands for an empty cell. -/
def empty : String := "∅"

/-! ## Texts -/

/-- Stands for a line break. -/
def breakMark : List Char := [' ', '↵', ' ']

/-- Every line break of carriage return and line feed replaced by the mark. -/
def markReturns : List Char → List Char
  | '\r' :: '\n' :: rest => breakMark ++ markReturns rest
  | c :: rest => c :: markReturns rest
  | [] => []

/-- Every line feed replaced by the mark. -/
def markFeeds : List Char → List Char
  | [] => []
  | c :: rest => if c = '\n' then breakMark ++ markFeeds rest else c :: markFeeds rest

/-- A text on one line. -/
def ofText (text : String) : String :=
  String.ofList (markFeeds (markReturns text.toList))

/-! ## Other values -/

/-- A word of truth in small letters. -/
def ofBool : Bool → String
  | true => "true"
  | false => "false"

/-- Days as a date. -/
def ofDays (days : Int) : String := (CalendarDate.ofDays days).text

/-- The hexadecimal digit of a number below sixteen, in small letters. -/
def hexDigit (n : Nat) : Char := (Nat.toDigits 16 n).head?.getD '0'

/-- Printed characters of one byte other than the blank stand as they are, all
other bytes as two hexadecimal digits. -/
def ofByte (byte : UInt8) : List Char :=
  if 0x21 ≤ byte ∧ byte ≤ 0x7e then [Char.ofNat byte.toNat]
  else ['\\', 'x', hexDigit (byte.toNat / 16), hexDigit (byte.toNat % 16)]

/-- The number of bytes that are shown. -/
def byteLimit : Nat := 60

/-- Stands behind the closing quote if there are more bytes than are shown. -/
def ellipsis : String := "…"

/-- The first bytes between quotes, with a mark in front. -/
def ofBytes (bytes : ByteArray) : String :=
  "b\"" ++ String.ofList ((bytes.toList.take byteLimit).flatMap ofByte) ++ "\"" ++
    if byteLimit < bytes.size then ellipsis else ""

/-! ## Floating point numbers -/

/-- The minus sign of a negative number. -/
def signText (negative : Bool) : String := if negative then "-" else ""

/-- The shortest digits, never with an exponent. -/
def plainFloat (negative : Bool) (mantissa : Nat) (exponent : Int) : String :=
  if mantissa = 0 then signText negative ++ "0"
  else signText negative ++ (Decimal.shortest .binary64 .up mantissa exponent).positional

/-- A fraction without its trailing zeros, the first place apart. -/
def trimZeros (text : String) : String :=
  let trimmed := text.toList.reverse.dropWhile (· == '0')
  match trimmed with
  | '.' :: _ => String.ofList (('0' :: trimmed).reverse)
  | _ => String.ofList trimmed.reverse

/-- Whether `num / den` is below the decimal `10 ^ -6` as the format holds it. -/
def isTiny (num den : Nat) : Bool :=
  match FloatFormat.binary64.ofDecimal false 1 (-6) with
  | .finite _ mantissa exponent =>
    let (num', den') := FloatValue.magnitude mantissa exponent
    num * den' < num' * den
  | _ => false

/-- Whole numbers below 999999 have one place. Other numbers show their shortest
digits where these take at most nine characters, a whole number in scientific
notation; else six places without trailing zeros, or four places and an exponent
outside of 0.000001 to 999999. -/
def ofFinite (negative : Bool) (mantissa : Nat) (exponent : Int) : String :=
  let (num, den) := FloatValue.magnitude mantissa exponent
  let isWhole := num % den == 0
  if isWhole ∧ num < 999999 * den then signText negative ++ Decimal.fixed 1 num den
  else
    let plain := plainFloat negative mantissa exponent
    if 9 < plain.length then
      if isTiny num den ∨ 999999 * den < num then
        signText negative ++ Decimal.scientificFixed 4 num den
      else signText negative ++ trimZeros (Decimal.fixed 6 num den)
    else if isWhole then
      signText negative ++ (Decimal.shortest .binary64 .up mantissa exponent).scientific
    else plain

/-- A floating point number, widened to the larger format. -/
def ofFloat (value : FloatValue) : String :=
  match FloatFormat.binary64.convert value with
  | .nan => "NaN"
  | .infinite negative => signText negative ++ "inf"
  | .finite negative mantissa exponent => ofFinite negative mantissa exponent

/-! ## Cells -/

/-- A cell holds whole numbers from `-2 ^ 63` to below `2 ^ 63`. -/
def fitsNumber (value : Int) : Bool := -0x8000000000000000 ≤ value && value < 0x8000000000000000

/-- A whole number; one that is too large is held as its text. -/
def ofInteger (value : Int) : Cell :=
  if fitsNumber value then .number value else .text value.repr

end CellText

/-- The cell of a row. An empty cell and a row behind the end show the same mark. -/
def ColumnCells.cell (cells : ColumnCells) (row : Nat) : Cell :=
  let shown : Option Cell :=
    match cells with
    | .integers _ cells => cells[row]?.join.map CellText.ofInteger
    | .floats _ cells => cells[row]?.join.map (.text ∘ CellText.ofFloat)
    | .booleans cells => cells[row]?.join.map (.text ∘ CellText.ofBool)
    | .texts cells => cells[row]?.join.map (.text ∘ CellText.ofText)
    | .dates cells => cells[row]?.join.map (.text ∘ CellText.ofDays)
    | .binaries cells => cells[row]?.join.map (.text ∘ CellText.ofBytes)
    | .others _ cells => cells[row]?.join.map (.text ∘ OtherValue.printed)
    | .empties _ => none
  shown.getD (.text CellText.empty)

end AttributeBrowser
