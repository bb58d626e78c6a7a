import QueryMacros.Number.Binary64
import QueryMacros.Number.Numeral

/-!
# The shortest decimal of a floating-point value

A decimal *stands for* a floating-point value if rounding the decimal gives the
value back. The decimals that do so fill an interval around the value: it
reaches half way to the neighbours on both sides, and its ends belong to it
exactly if the significand is even. Among these decimals the shortest is written
out, that is, one on the coarsest grid of multiples of a power of ten that meets
the interval. Only the two neighbours of the value on a grid need to be looked
at; if both stand for it the closer one is taken, and the upper one of two that
are equally close.

Decimals are written without an exponent, whatever their size.
-/
namespace QueryMacros

/-- A decimal: `digits * 10 ^ exponent`. -/
structure Decimal where
  digits : Nat
  exponent : Int
deriving DecidableEq, Repr

namespace Decimal

/-- Ten to the power of an exponent, for exponents that are not negative. -/
def powerOfTen (exponent : Int) : Nat := Nat.pow 10 exponent.toNat

/-- Writes a decimal in positional notation, with a point only if there are
places behind it. -/
def write (decimal : Decimal) : Text :=
  if 0 ≤ decimal.exponent then Numeral.write (decimal.digits * powerOfTen decimal.exponent)
  else
    let unit := powerOfTen (-decimal.exponent)
    Numeral.write (decimal.digits / unit) ++
      '.' :: Numeral.writePadded (-decimal.exponent).toNat (decimal.digits % unit)

/-- The interval of the numbers that round to a floating-point value, in quarters
of the value's own unit: its lower end, the value, and its upper end. Below a
power of two the numbers lie twice as close, so the lower half is half as wide
there. -/
structure Interval where
  lower : Nat
  middle : Nat
  upper : Nat
  closed : Bool
deriving DecidableEq, Repr

/-- The interval around a positive value. -/
def interval (significand : Nat) (exponent : Int) : Interval where
  lower := 4 * significand -
    (if significand = Nat.pow 2 (Binary64.precision - 1) ∧ Binary64.leastExponent < exponent then 1
      else 2)
  middle := 4 * significand
  upper := 4 * significand + 2
  closed := significand % 2 = 0

/-- Whether a number lies in an interval. -/
def Interval.holds (interval : Interval) (scaled unit : Nat) : Bool :=
  if interval.closed then interval.lower * unit ≤ scaled && scaled ≤ interval.upper * unit
  else interval.lower * unit < scaled && scaled < interval.upper * unit

/-- The decimal that stands for a value on one grid, if there is one. A quarter of
the value's unit is `quarter` divided by `step` in steps of the grid; both
neighbours of the value are compared after multiplication by `step`. -/
def onGrid? (interval : Interval) (quarter step : Nat) : Option Nat :=
  let below := interval.middle * quarter / step
  let above := below + 1
  let distanceBelow := interval.middle * quarter - below * step
  let distanceAbove := above * step - interval.middle * quarter
  match interval.holds (below * step) quarter, interval.holds (above * step) quarter with
  | true, true => some (if distanceBelow < distanceAbove then below else above)
  | true, false => some below
  | false, true => some above
  | false, false => none

/-- Looks for the decimal on ever finer grids, starting at `exponent`. The count
bounds the search; it is chosen so that the last grid is finer than the
interval. -/
def search (significand : Nat) (binaryExponent : Int) : Nat → Int → Decimal
  | 0, exponent => ⟨0, exponent⟩
  | more + 1, exponent =>
      let quarter := Binary64.powerOfTwo (binaryExponent - 2) * powerOfTen (-exponent)
      let step := Binary64.powerOfTwo (2 - binaryExponent) * powerOfTen exponent
      match onGrid? (interval significand binaryExponent) quarter step with
      | some digits => ⟨digits, exponent⟩
      | none => search significand binaryExponent more (exponent - 1)

/-- The shortest decimal that stands for a positive finite value. The search
starts above the leading digit of the value. -/
def shortest (significand : Nat) (exponent : Int) : Decimal :=
  let whole := significand * Binary64.powerOfTwo exponent / Binary64.powerOfTwo (-exponent)
  let start := (Numeral.write whole).length
  search significand exponent (start + 1100) start

end Decimal

namespace Binary64

/-- A value in positional notation, by its shortest decimal. -/
def write : Binary64 → Text
  | .notANumber => "NaN"
  | .infinite negative => if negative then "-inf" else "inf"
  | .finite negative significand exponent =>
      let size : Text :=
        if significand = 0 then "0" else (Decimal.shortest significand exponent).write
      if negative then '-' :: size else size

/-- The bound below which a whole number is written as an integer. -/
def integerBound : Int := 1000000000000000

/-- A value as a dashboard writes numbers: whole numbers of up to fifteen digits
as integers, so that a zero has no sign, and all others by their shortest
decimal. -/
def writeNumber (value : Binary64) : Text :=
  match value.toInt? with
  | some whole =>
      if whole.natAbs < integerBound.natAbs then Numeral.writeInt whole else value.write
  | none => value.write

end Binary64

end QueryMacros
