import AttributeBrowser.Error

/-!
# Lines and fields of comma separated text

Text is cut into lines at line feeds and lines into fields at commas. Quotes
protect both: every quote of a text switches between inside and outside, wherever
it stands, and no line ends inside. Commas are protected only in a field that
starts with a quote.
-/

namespace AttributeBrowser

namespace Csv

def quote : UInt8 := 0x22

def comma : UInt8 := 0x2c

def lineFeed : UInt8 := 0x0a

def carriageReturn : UInt8 := 0x0d

/-- A text being cut into lines: the lines so far and the bytes of the one begun,
both latest first, and whether a quote is open. -/
structure LineCut where
  lines : List (List UInt8) := []
  current : List UInt8 := []
  inside : Bool := false

/-- Reads one byte: a line feed outside quotes ends the line. -/
def LineCut.read (cut : LineCut) (byte : UInt8) : LineCut :=
  if byte = lineFeed ∧ cut.inside = false then
    { lines := cut.current.reverse :: cut.lines }
  else
    { cut with
      current := byte :: cut.current
      inside := if byte = quote then !cut.inside else cut.inside }

/-- The lines of a text; nothing stands behind a final line feed. -/
def lines (text : List UInt8) : Except FrameReason (List (List UInt8)) :=
  let cut := text.foldl LineCut.read {}
  if cut.inside then .error .openQuote
  else if cut.current.isEmpty then .ok cut.lines.reverse
  else .ok (cut.current.reverse :: cut.lines).reverse

/-- A line without the carriage return at its end, unless that is all it holds. -/
def trimLine (line : List UInt8) : List UInt8 :=
  if 1 < line.length ∧ line.getLast? = some carriageReturn then line.dropLast else line

/-- A line being cut into fields: the fields so far and the bytes of the one begun,
both latest first, whether it starts with a quote, and whether one is open in it. -/
structure FieldCut where
  fields : List (List UInt8) := []
  current : List UInt8 := []
  quoted : Bool := false
  inside : Bool := false

/-- Reads one byte: a comma outside quotes ends the field. -/
def FieldCut.read (cut : FieldCut) (byte : UInt8) : FieldCut :=
  if byte = comma ∧ cut.inside = false then
    { fields := cut.current.reverse :: cut.fields }
  else if byte = quote ∧ (cut.quoted ∨ cut.current.isEmpty) then
    { cut with current := byte :: cut.current, quoted := true, inside := !cut.inside }
  else { cut with current := byte :: cut.current }

/-- The fields of a line; a line has at least one. -/
def fields (line : List UInt8) : List (List UInt8) :=
  let cut := line.foldl FieldCut.read {}
  (cut.current.reverse :: cut.fields).reverse

/-- Whether a field starts with a quote. -/
def isQuoted (field : List UInt8) : Bool := field.head? == some quote

/-- A field without its first and last byte. -/
def inner (field : List UInt8) : List UInt8 := field.tail.dropLast

/-- The content of a quoted field. -/
def unquote (field : List UInt8) : List UInt8 := if isQuoted field then inner field else field

end Csv

end AttributeBrowser
