import QueryMacros.Number.Numeral

/-!
# Dates

The Gregorian calendar, extended without change to all years before and after
its introduction, with a year zero. A day is numbered by its distance from the
first of January 1970. `dayNumber` counts up to a date from the lengths of years
and months; `ofDayNumber` goes back by estimating the year from the mean length
of a year and correcting the estimate by one where needed.

The dates of this library lie in the years from −262143 to 262142.
-/
namespace QueryMacros

/-- A date: its year, its month from one to twelve, and its day from one on. -/
structure Date where
  year : Int
  month : Nat
  day : Nat
deriving DecidableEq, Repr

namespace Date

/-- The first year of a date. -/
def firstYear : Int := -262143

/-- The last year of a date. -/
def lastYear : Int := 262142

/-- A leap year is divisible by four and, if it is divisible by a hundred, also by
four hundred. -/
def isLeap (year : Int) : Bool := year % 4 == 0 && (year % 100 != 0 || year % 400 == 0)

/-- The lengths of the months of a year, in order. -/
def monthLengths (year : Int) : List Nat :=
  [31, if isLeap year then 29 else 28, 31, 30, 31, 30, 31, 31, 30, 31, 30, 31]

/-- The number of the first day of a year. Every year adds 365 days, and one more
for each leap year that has passed. -/
def yearStart (year : Int) : Int :=
  let passed := year - 1
  365 * passed + passed / 4 - passed / 100 + passed / 400 - 719162

/-- The year that holds a day. Four hundred years have 146097 days; the estimate
from this mean is at most one year off. -/
def yearOf (dayNumber : Int) : Int :=
  let estimate := 400 * (dayNumber + 719162) / 146097 + 1
  if dayNumber < yearStart estimate then estimate - 1
  else if yearStart (estimate + 1) ≤ dayNumber then estimate + 1
  else estimate

/-- Finds the month and the day in it from the number of days that passed since
the start of the year. The first argument is the month that `lengths` begins
with. -/
def monthAndDay (month : Nat) : List Nat → Nat → Nat × Nat
  | [], passed => (month, passed + 1)
  | length :: lengths, passed =>
      if passed < length then (month, passed + 1)
      else monthAndDay (month + 1) lengths (passed - length)

/-- The date of a day. -/
def ofDayNumber (dayNumber : Int) : Date :=
  let year := yearOf dayNumber
  let (month, day) := monthAndDay 1 (monthLengths year) (dayNumber - yearStart year).toNat
  ⟨year, month, day⟩

/-- Whether a date is in the calendar and in the range of years. -/
def isValid (date : Date) : Bool :=
  decide (firstYear ≤ date.year) && decide (date.year ≤ lastYear) && decide (1 ≤ date.month) &&
    decide (1 ≤ date.day) && decide (date.day ≤ (monthLengths date.year).getD (date.month - 1) 0)

/-- The number of days in a number of months, given the lengths of the months. -/
def daysIn : Nat → List Nat → Nat
  | 0, _ => 0
  | _ + 1, [] => 0
  | months + 1, length :: lengths => length + daysIn months lengths

/-- The number of a date's day. It is meant for valid dates. -/
def dayNumber (date : Date) : Int :=
  yearStart date.year + daysIn (date.month - 1) (monthLengths date.year) + (date.day - 1)

/-- The number of the first day that a date can have. -/
def firstDay : Int := yearStart firstYear

/-- The number of the last day that a date can have. -/
def lastDay : Int := yearStart (lastYear + 1) - 1

/-- A year of four digits as it is; any other with its sign and at least four
digits. -/
def writeYear (year : Int) : Text :=
  if 0 ≤ year ∧ year ≤ 9999 then Numeral.writePadded 4 year.toNat
  else (if year < 0 then '-' else '+') :: Numeral.writePadded 4 year.natAbs

/-- A date as year, month and day, joined by hyphens. -/
def write (date : Date) : Text :=
  writeYear date.year ++ '-' :: Numeral.writePadded 2 date.month ++
    '-' :: Numeral.writePadded 2 date.day

example : firstDay = -96465292 ∧ lastDay = 95026236 := by decide

example : ofDayNumber 0 = ⟨1970, 1, 1⟩ ∧ ofDayNumber (-1) = ⟨1969, 12, 31⟩ ∧
    ofDayNumber 19782 = ⟨2024, 2, 29⟩ := by decide

end Date

end QueryMacros
