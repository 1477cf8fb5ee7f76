import AttributeBrowser.Number.FloatFormat

/-!
# Reading numbers

Written numbers as floating point numbers: a sign if wanted, digits with a point
among them or at an end, a power of ten if wanted, or infinity or no number by
name in any case.
-/

namespace AttributeBrowser

namespace FloatText

/-- The number that digits of the base ten write. -/
def natOfDigits (digits : List Char) : Nat :=
  digits.foldl (fun n c => 10 * n + (c.toNat - '0'.toNat)) 0

/-- The exponent at the end of a number: none at all, or the mark, a sign if wanted,
and digits. -/
def exponent? : List Char → Option Int
  | [] => some 0
  | mark :: rest =>
    if mark = 'e' ∨ mark = 'E' then
      let (negative, digits) :=
        match rest with
        | '-' :: digits => (true, digits)
        | '+' :: digits => (false, digits)
        | digits => (false, digits)
      if digits.isEmpty ∨ !digits.all Char.isDigit then none
      else
        let size : Int := natOfDigits digits
        some (if negative then -size else size)
    else none

/-- A number without its sign. -/
def unsigned? (format : FloatFormat) (negative : Bool) (text : List Char) : Option FloatValue :=
  let name := String.ofList (text.map Char.toLower)
  if name = "inf" ∨ name = "infinity" then some (.infinite negative)
  else if name = "nan" then some .nan
  else
    let whole := text.takeWhile Char.isDigit
    let rest := text.dropWhile Char.isDigit
    let (places, rest) :=
      match rest with
      | '.' :: rest => (rest.takeWhile Char.isDigit, rest.dropWhile Char.isDigit)
      | rest => ([], rest)
    if whole.isEmpty ∧ places.isEmpty then none
    else
      (exponent? rest).map fun exponent =>
        format.ofDecimal negative (natOfDigits (whole ++ places)) (exponent - places.length)

/-- The number of a format nearest to a written one. -/
def parse? (format : FloatFormat) : List Char → Option FloatValue
  | '-' :: rest => unsigned? format true rest
  | '+' :: rest => unsigned? format false rest
  | text => unsigned? format false text

end FloatText

end AttributeBrowser
