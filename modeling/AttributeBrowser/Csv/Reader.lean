import AttributeBrowser.Csv.Kind
import AttributeBrowser.Frame.Conversion
import AttributeBrowser.Number.FloatText

/-!
# Comma separated text as a frame

The first line names the columns, the first hundred lines of data tell their
kinds, and every line is a row. An empty field is an empty cell, missing fields
are empty cells, and a line with too many fields is refused.
-/

namespace AttributeBrowser

namespace Csv

/-! ## Cells -/

/-- The blanks that may stand in front of a number. -/
def isBlank (byte : UInt8) : Bool := byte == 0x20 || byte == 0x09

/-- The characters of a field of which all are plain; none for other fields. -/
def plainChars (field : List UInt8) : List Char := field.map fun byte => Char.ofNat byte.toNat

/-- The number written in a field, behind blanks or after none. A field of blanks
alone is empty. -/
def number? {α : Type} (parse : List Char → Option α) (field : List UInt8) :
    Except FrameReason (Option α) :=
  if field.isEmpty then .ok none
  else
    let content := (unquote field)
    match parse (plainChars content) with
    | some value => .ok (some value)
    | none =>
      if content.head?.all (!isBlank ·) then .error .invalidField
      else
        let content := content.dropWhile isBlank
        if content.isEmpty then .ok none
        else
          match parse (plainChars content) with
          | some value => .ok (some value)
          | none => .error .invalidField

/-- A whole number of 64 bits. -/
def integer? (content : List Char) : Option Int :=
  (Conversion.textInteger (String.ofList content)).bind Conversion.inRange

/-- A word of truth. -/
def boolean? (field : List UInt8) : Except FrameReason (Option Bool) :=
  if field.isEmpty then .ok none
  else
    let word := String.ofList ((plainChars (unquote field)).map Char.toLower)
    if word = "true" then .ok (some true)
    else if word = "false" then .ok (some false)
    else .error .invalidField

/-- The content of a quoted field: a quote stands for one if it follows another one,
and for nothing else. -/
def unescape : List UInt8 → Bool → List UInt8
  | [], _ => []
  | byte :: rest, afterQuote =>
    if byte = quote then
      if afterQuote then byte :: unescape rest false else unescape rest true
    else byte :: unescape rest false

/-- A text; a quoted field has to end with a quote. -/
def text? (field : List UInt8) : Except FrameReason (Option String) :=
  if field.isEmpty then .ok none
  else if isQuoted field ∧ ¬(1 < field.length ∧ field.getLast? = some quote) then
    .error .invalidField
  else
    let content := if isQuoted field then unescape (inner field) false else field
    match Utf8.decode? content with
    | some text => .ok (some text)
    | none => .error .invalidText

/-! ## Columns -/

/-- The header names; a name used before gets a number. -/
def columnNames : List String → List String → List String
  | _, [] => []
  | before, name :: names =>
    let uses := before.count name
    let shown := if uses = 0 then name else name ++ "_duplicated_" ++ (uses - 1).repr
    shown :: columnNames (name :: before) names

/-- A field without a carriage return at its end. -/
def trimField (field : List UInt8) : List UInt8 :=
  if field.getLast? = some carriageReturn then field.dropLast else field

/-- The fields of a row; an empty line has none. -/
def row (count : Nat) (line : List UInt8) : Except FrameReason (Array (List UInt8)) :=
  if line.isEmpty then .ok #[]
  else
    let fields := (fields line).map trimField
    if count < fields.length then .error .tooManyFields else .ok fields.toArray

/-- The cells of a column of a kind. -/
def columnCells (rows : Array (Array (List UInt8))) (column : Nat) (kind : Kind) :
    Except FrameReason ColumnCells :=
  let fields := rows.map fun row => row.getD column []
  match kind with
  | .boolean => (fields.mapM boolean?).map .booleans
  | .integer => (fields.mapM (number? integer?)).map (.integers .int64)
  | .float => (fields.mapM (number? (FloatText.parse? .binary64))).map (.floats .binary64)
  | .text => (fields.mapM text?).map .texts

/-- A text without the mark of its encoding and line breaks in front. -/
def trimStart (text : List UInt8) : List UInt8 :=
  let text :=
    match text with
    | 0xef :: 0xbb :: 0xbf :: rest => rest
    | text => text
  text.dropWhile fun byte => byte == carriageReturn || byte == lineFeed

/-- The frame that a text holds. -/
def read (text : List UInt8) : Except FrameReason Frame := do
  let text := trimStart text
  if text.length < 2 then throw .noData
  match ← lines text with
  | [] => throw .noData
  | header :: data =>
    let names := columnNames [] ((fields (trimLine header)).map (Utf8.decodeLossy ∘ unquote))
    let kinds ← kinds names.length data
    let rows ← data.toArray.mapM (row names.length)
    let columns ← (names.zip kinds).toArray.zipIdx.mapM fun ((name, kind), index) =>
      return ({ name, cells := ← columnCells rows index kind } : Column)
    Frame.ofColumns columns

end Csv

end AttributeBrowser
