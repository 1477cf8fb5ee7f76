import AttributeBrowser.Number.Rounding

/-!
# Binary floating point

Floating point numbers as what they stand for: a sign, a whole number and a power
of two. A format says how many binary digits a number has and which exponents
there are; `round` gives the number of a format nearest to a quotient, a half to
the even neighbour, and `ofDecimal` the one nearest to a decimal.
-/

namespace AttributeBrowser

/-- A floating point number. -/
inductive FloatValue
  | nan
  | infinite (negative : Bool)
  /-- Plus or minus `mantissa * 2 ^ exponent`; zero has a sign too. -/
  | finite (negative : Bool) (mantissa : Nat) (exponent : Int)
deriving DecidableEq, Repr

/-- A format: the number of binary digits, the exponent of the last digit of the
smallest numbers, and the exponent of the power of two that bounds them all. -/
structure FloatFormat where
  precision : Nat
  minExponent : Int
  maxExponent : Int
deriving DecidableEq, Repr

namespace FloatFormat

/-- Numbers of 32 bits. -/
def binary32 : FloatFormat := ⟨24, -149, 128⟩

/-- Numbers of 64 bits. -/
def binary64 : FloatFormat := ⟨53, -1074, 1024⟩

/-- The number nearest to `num / den`, infinite where that is out of bounds. -/
def round (format : FloatFormat) (negative : Bool) (num den : Nat) : FloatValue :=
  if num = 0 then .finite negative 0 format.minExponent
  else
    let exponent := max (Rounding.floorLog2 num den - format.precision + 1) format.minExponent
    let (num, den) := Rounding.scale 2 num den exponent
    let mantissa := Rounding.halfEven num den
    let (mantissa, exponent) :=
      if mantissa = Nat.pow 2 format.precision then (mantissa / 2, exponent + 1)
      else (mantissa, exponent)
    if mantissa ≠ 0 ∧ format.maxExponent ≤ mantissa.log2 + exponent then .infinite negative
    else .finite negative mantissa exponent

/-- The number nearest to `digits * 10 ^ exponent`. A decimal far out of bounds is
told by the place of its first digit alone. -/
def ofDecimal (format : FloatFormat) (negative : Bool) (digits : Nat) (exponent : Int) :
    FloatValue :=
  let count := Rounding.digitCount digits
  if digits = 0 then .finite negative 0 format.minExponent
  else if format.maxExponent ≤ count - 1 + exponent then .infinite negative
  else if count + exponent < format.minExponent then .finite negative 0 format.minExponent
  else
    let (num, den) := Rounding.scale 10 digits 1 (-exponent)
    format.round negative num den

/-- The number of a format nearest to a number of another one. -/
def convert (format : FloatFormat) : FloatValue → FloatValue
  | .nan => .nan
  | .infinite negative => .infinite negative
  | .finite negative mantissa exponent =>
    let (num, den) := Rounding.scale 2 mantissa 1 (-exponent)
    format.round negative num den

end FloatFormat

namespace FloatValue

/-- The size of a finite number as a numerator and a denominator. -/
def magnitude (mantissa : Nat) (exponent : Int) : Nat × Nat :=
  Rounding.scale 2 mantissa 1 (-exponent)

/-- The whole part of a finite number, rounded toward zero. -/
def truncate? : FloatValue → Option Int
  | .finite negative mantissa exponent =>
    let (num, den) := magnitude mantissa exponent
    let whole : Int := (num / den : Nat)
    some (if negative then -whole else whole)
  | _ => none

end FloatValue

end AttributeBrowser
