import QueryMacros.Text.Basic

/-!
# Numerals in other bases

Numerals of a base up to sixteen, with letters of either case for the digits from
ten on. Such a numeral is a run of digits, each below the base.
-/
namespace QueryMacros.Radix

/-- The digit of a value below sixteen, in lower case. -/
def digit (value : Nat) : Char :=
  if value < 10 then Char.ofNat ('0'.toNat + value) else Char.ofNat ('a'.toNat + (value - 10))

/-- The value of a digit in base sixteen. -/
def digitValue? (c : Char) : Option Nat :=
  if c.isDigit then some (c.toNat - '0'.toNat)
  else if 'a' ≤ c ∧ c ≤ 'f' then some (c.toNat - 'a'.toNat + 10)
  else if 'A' ≤ c ∧ c ≤ 'F' then some (c.toNat - 'A'.toNat + 10)
  else none

/-- Whether a character is a digit of a base. -/
def isDigit (base : Nat) (c : Char) : Bool := (digitValue? c).any (· < base)

/-- The number that a run of digits of a base stands for. The empty run stands
for zero. -/
def value? (base : Nat) (digits : Text) : Option Nat :=
  if digits.all (isDigit base) then
    (digits.mapM digitValue?).map fun values =>
      values.foldl (fun value digit => base * value + digit) 0
  else none

end QueryMacros.Radix
