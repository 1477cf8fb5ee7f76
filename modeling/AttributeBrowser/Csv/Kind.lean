import AttributeBrowser.Csv.Field
import AttributeBrowser.Text.Utf8
import AttributeBrowser.Text.Digits

/-!
# Kinds of fields

What the fields of a column of comma separated text look like, and the kind of
the column that follows from them: whole numbers, numbers, truth values, or text
where nothing else fits all fields.
-/

namespace AttributeBrowser

namespace Csv

/-- What a field, or all fields of a column, look like. -/
inductive Kind
  | boolean
  | integer
  | float
  | text
deriving DecidableEq, Repr

/-- A small letter for a capital one; the long s counts as an s. -/
def foldCase (c : Char) : Char := if c = 'ſ' then 's' else c.toLower

/-- Two words of truth, in any case. -/
def isBoolean (field : List Char) : Bool :=
  let folded := field.map foldCase
  folded == "true".toList || folded == "false".toList

/-- At least one digit and nothing else. -/
def isDigits (field : List Char) : Bool := !field.isEmpty && field.all Digits.isDigit

/-- Nothing, or the mark, a sign if wanted, and digits. -/
def isExponent : List Char → Bool
  | mark :: rest =>
    if mark = 'e' ∨ mark = 'E' then
      match rest with
      | '+' :: digits => isDigits digits
      | '-' :: digits => isDigits digits
      | digits => isDigits digits
    else false
  | [] => false

/-- A number with a point, an exponent or both, or infinity or no number by name. -/
def isUnsignedFloat (field : List Char) : Bool :=
  let whole := field.takeWhile Digits.isDigit
  match field.dropWhile Digits.isDigit with
  | '.' :: rest =>
    let places := rest.takeWhile Digits.isDigit
    let exponent := rest.dropWhile Digits.isDigit
    if places.isEmpty then !whole.isEmpty && exponent.isEmpty
    else exponent.isEmpty || isExponent exponent
  | rest =>
    if whole.isEmpty then rest == "inf".toList || rest == "NaN".toList else isExponent rest

/-- A number that is not whole, with a sign if wanted. -/
def isFloat : List Char → Bool
  | '-' :: rest => isUnsignedFloat rest
  | '+' :: rest => isUnsignedFloat rest
  | field => isUnsignedFloat field

/-- Digits, behind a minus sign if wanted; a plus sign makes it text. -/
def isInteger : List Char → Bool
  | '-' :: rest => isDigits rest
  | field => isDigits field

/-- What one field looks like. -/
def kindOf (field : List Char) : Kind :=
  if isBoolean field then .boolean
  else if isFloat field then .float
  else if isInteger field then .integer
  else .text

/-- The kind of a column of which some fields have been seen. -/
def combine : Option Kind → Kind → Option Kind
  | none, kind => some kind
  | some .integer, .float => some .float
  | some .float, .integer => some .float
  | some seen, kind => some (if seen = kind then seen else .text)

/-- What a field of a line says about its column; an empty field says nothing. -/
def see (seen : Option Kind) (field : List UInt8) : Except FrameReason (Option Kind) :=
  if field.isEmpty then .ok seen
  else
    match Utf8.decode? (unquote field) with
    | some text => .ok (combine seen (kindOf text.toList))
    | none => .error .invalidText

/-- The lines looked at to find the kinds of the columns. -/
def sampleSize : Nat := 100

/-- What a line says about the columns, from the first on. -/
def seeLine : List (Option Kind) → List (List UInt8) → Except FrameReason (List (Option Kind))
  | seen :: kinds, field :: fields => do
    return (← see seen field) :: (← seeLine kinds fields)
  | kinds, _ => .ok kinds

/-- The kinds of the columns, from the first lines of data. -/
def kinds (count : Nat) (data : List (List UInt8)) : Except FrameReason (List Kind) := do
  let sample := ((data.take sampleSize).map trimLine).filter (!·.isEmpty)
  let seen ← sample.foldlM (fun seen line => seeLine seen (fields line)) (List.replicate count none)
  return seen.map (·.getD .text)

end Csv

end AttributeBrowser
