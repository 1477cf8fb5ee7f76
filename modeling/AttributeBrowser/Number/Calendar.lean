import AttributeBrowser.Number.Decimal

/-!
# Calendar

Days counted from the first of January 1970 as dates of the Gregorian calendar,
extended in both directions. Years are counted from March, so that the day that
comes and goes stands at their end, and four hundred years have 146097 days.
-/

namespace AttributeBrowser

/-- A date. -/
structure CalendarDate where
  year : Int
  month : Nat
  day : Nat
deriving DecidableEq, Repr

namespace CalendarDate

/-- The date that many days after the first of January 1970. -/
def ofDays (days : Int) : CalendarDate :=
  let shifted := days + 719468
  let era := Int.fdiv shifted 146097
  let dayOfEra := (shifted - era * 146097).toNat
  let yearOfEra :=
    (dayOfEra - dayOfEra / 1460 + dayOfEra / 36524 - dayOfEra / 146096) / 365
  let dayOfYear := dayOfEra - (365 * yearOfEra + yearOfEra / 4 - yearOfEra / 100)
  let shiftedMonth := (5 * dayOfYear + 2) / 153
  let day := dayOfYear - (153 * shiftedMonth + 2) / 5 + 1
  let month := if shiftedMonth < 10 then shiftedMonth + 3 else shiftedMonth - 9
  let year := (yearOfEra : Int) + era * 400 + (if month ≤ 2 then 1 else 0)
  { year, month, day }

/-- A number with leading zeros up to a length. -/
def padded (length n : Nat) : String :=
  Decimal.zeros (length - n.repr.length) ++ n.repr

/-- Year, month and day with hyphens; a year outside 0 to 9999 has a sign. -/
def text (date : CalendarDate) : String :=
  let sign := if date.year < 0 then "-" else if 9999 < date.year then "+" else ""
  sign ++ padded 4 date.year.natAbs ++ "-" ++ padded 2 date.month ++ "-" ++ padded 2 date.day

end CalendarDate

end AttributeBrowser
