/-!
# Binary floating point of 64 bits

A finite value is a whole significand below 2⁵³ times a power of two, with a
sign. `nearest` rounds an exact quotient of two natural numbers to the closest
such value, and a quotient half way between two of them to the one whose
significand is even. Conversion of integers and division are that one rule at
work, so everything here is exact arithmetic on whole numbers: nothing depends
on the floating-point unit, and every result can be reasoned about.

The exponent is the least possible one for a value, so that the significand has
53 bits, unless the exponent cannot be made smaller.
-/
namespace QueryMacros

/-- A floating-point value. A finite one stands for `significand * 2 ^ exponent`,
negated if `negative` holds. -/
inductive Binary64 where
  | notANumber
  | infinite (negative : Bool)
  | finite (negative : Bool) (significand : Nat) (exponent : Int)
deriving DecidableEq, Repr

namespace Binary64

/-- The bits of a significand. -/
def precision : Nat := 53

/-- The least exponent of a finite value. -/
def leastExponent : Int := -1074

/-- The greatest exponent of a finite value. -/
def greatestExponent : Int := 971

/-- Two to the power of an exponent, for exponents that are not negative. -/
def powerOfTwo (exponent : Int) : Nat := Nat.pow 2 exponent.toNat

/-- The quotient of two natural numbers rounded to a whole number. A half goes to
the even neighbour. -/
def roundQuotient (numerator denominator : Nat) : Nat :=
  let floor := numerator / denominator
  let twice := 2 * (numerator % denominator)
  if twice < denominator then floor
  else if denominator < twice then floor + 1
  else if floor % 2 = 0 then floor else floor + 1

/-- The exponent of the greatest power of two that does not exceed a positive
quotient. The bit lengths of its two parts leave one choice open. -/
def magnitude (numerator denominator : Nat) : Int :=
  let estimate : Int := (numerator.log2 : Int) - denominator.log2
  if denominator * powerOfTwo estimate ≤ numerator * powerOfTwo (-estimate) then estimate
  else estimate - 1

/-- The value closest to a quotient of natural numbers, the denominator being
positive. Beyond the greatest finite value it is infinite. -/
def nearest (negative : Bool) (numerator denominator : Nat) : Binary64 :=
  if numerator = 0 then .finite negative 0 leastExponent
  else
    let exponent := max leastExponent (magnitude numerator denominator - (precision - 1 : Nat))
    let significand :=
      roundQuotient (numerator * powerOfTwo (-exponent)) (denominator * powerOfTwo exponent)
    if significand < Nat.pow 2 precision then
      if exponent ≤ greatestExponent then .finite negative significand exponent
      else .infinite negative
    else if exponent + 1 ≤ greatestExponent then
      .finite negative (significand / 2) (exponent + 1)
    else .infinite negative

/-- The value closest to an integer. -/
def ofInt (value : Int) : Binary64 := nearest (value < 0) value.natAbs 1

/-- The value closest to a value divided by a positive whole number. -/
def divide (value : Binary64) (divisor : Nat) : Binary64 :=
  match value with
  | .finite negative significand exponent =>
      nearest negative (significand * powerOfTwo exponent) (divisor * powerOfTwo (-exponent))
  | other => other

/-- The value that is not below one: the greater of a value and one, and one for
what is not a number. -/
def atLeastOne (value : Binary64) : Binary64 :=
  let one := nearest false 1 1
  match value with
  | .finite false significand exponent =>
      if powerOfTwo (-exponent) ≤ significand * powerOfTwo exponent then value else one
  | .infinite false => value
  | _ => one

/-- Decodes the bits of a value: one for the sign, eleven for the exponent, and
fifty-two for the significand, whose leading bit is left out. -/
def ofBits (bits : Nat) : Binary64 :=
  let negative : Bool := bits / Nat.pow 2 63 % 2 == 1
  let exponent : Nat := bits / Nat.pow 2 52 % Nat.pow 2 11
  let fraction : Nat := bits % Nat.pow 2 52
  if exponent = Nat.pow 2 11 - 1 then
    if fraction = 0 then .infinite negative else .notANumber
  else if exponent = 0 then .finite negative fraction leastExponent
  else .finite negative (Nat.pow 2 52 + fraction) (leastExponent + exponent - 1)

/-- The whole number that a value is, if it is one. The sign of a zero is lost. -/
def toInt? : Binary64 → Option Int
  | .finite negative significand exponent =>
      if significand % powerOfTwo (-exponent) = 0 then
        let size : Int := (significand * powerOfTwo exponent / powerOfTwo (-exponent) : Nat)
        some (if negative then -size else size)
      else none
  | _ => none

end Binary64

end QueryMacros
