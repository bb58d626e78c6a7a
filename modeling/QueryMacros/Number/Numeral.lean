import QueryMacros.Text.Basic

/-!
# Decimal numerals

Whole numbers are written in base ten without leading zeros, and read back from
any run of the ten basic digits. Reading what was written gives the number
again, also when zeros were put in front of it to fill a width.
-/
namespace QueryMacros.Numeral

/-- The character of a digit below ten. -/
def digit (value : Nat) : Char := Char.ofNat (0x30 + value)

/-- The number that a digit character stands for. It is meant for digits. -/
def digitValue (c : Char) : Nat := c.toNat - 0x30

/-- One of the ten basic digits. -/
def isDigit (c : Char) : Bool := c.isDigit

/-- A natural number in base ten, without leading zeros. -/
def write (value : Nat) : Text :=
  if value < 10 then [digit value] else write (value / 10) ++ [digit (value % 10)]
termination_by value

/-- An integer in base ten, with a minus sign if it is negative. -/
def writeInt (value : Int) : Text :=
  if value < 0 then '-' :: write value.natAbs else write value.natAbs

/-- A natural number in base ten, with zeros in front up to a width. -/
def writePadded (width value : Nat) : Text :=
  List.replicate (width - (write value).length) '0' ++ write value

/-- The number that a run of digits stands for, given the number that the digits
before the run stand for. -/
def valueFrom (higher : Nat) (digits : Text) : Nat :=
  digits.foldl (fun value c => 10 * value + digitValue c) higher

/-- The number that a run of digits stands for. -/
def value (digits : Text) : Nat := valueFrom 0 digits

/-- Reads a natural number: digits only, and at least one. -/
def read? (text : Text) : Option Nat :=
  if !text.isEmpty && text.all isDigit then some (value text) else none

/-- Reads a natural number that a plus sign may precede. -/
def readUnsigned? : Text → Option Nat
  | '+' :: digits => read? digits
  | digits => read? digits

/-- Reads an integer that a sign may precede. -/
def readInt? : Text → Option Int
  | '-' :: digits => (read? digits).map fun value => -(value : Int)
  | text => (readUnsigned? text).map fun value => (value : Int)

/-- The character of a value below ten is a digit. -/
theorem digit_isDigit {value : Nat} (small : value < 10) : isDigit (digit value) = true := by
  revert value
  decide

/-- The character of a value below ten stands for that value. -/
theorem digitValue_digit {value : Nat} (small : value < 10) :
    digitValue (digit value) = value := by
  revert value
  decide

/-- Every number has a digit, zero as well. -/
theorem write_ne_nil (value : Nat) : write value ≠ [] := by
  unfold write
  split <;> simp

/-- Every character of a written number is a digit. -/
theorem isDigit_of_mem_write {value : Nat} {c : Char} (member : c ∈ write value) :
    isDigit c = true := by
  fun_induction write value with
  | case1 value small =>
    obtain rfl := List.mem_singleton.1 member
    exact digit_isDigit small
  | case2 value _ inductionHypothesis =>
    rcases List.mem_append.1 member with higher | last
    · exact inductionHypothesis higher
    · obtain rfl := List.mem_singleton.1 last
      exact digit_isDigit (Nat.mod_lt _ (by decide))

/-- A run of digits can be read in two parts, the second given the number of the
first. -/
theorem valueFrom_append (higher : Nat) (front digits : Text) :
    valueFrom higher (front ++ digits) = valueFrom (valueFrom higher front) digits := by
  simp [valueFrom]

/-- A written number stands for itself. -/
theorem value_write (number : Nat) : value (write number) = number := by
  fun_induction write number with
  | case1 number small => simp [value, valueFrom, digitValue_digit small]
  | case2 number _ inductionHypothesis =>
    have last : digitValue (digit (number % 10)) = number % 10 :=
      digitValue_digit (Nat.mod_lt _ (by decide))
    rw [value, valueFrom_append, ← value, inductionHypothesis]
    simp only [valueFrom, List.foldl_cons, List.foldl_nil, last]
    omega

/-- Zeros in front of a run of digits do not change what it stands for. -/
theorem value_replicate_append (count : Nat) (digits : Text) :
    value (List.replicate count '0' ++ digits) = value digits := by
  have zeros : valueFrom 0 (List.replicate count '0') = 0 := by
    induction count with
    | zero => rfl
    | succ count inductionHypothesis =>
      rw [List.replicate_succ']
      rw [valueFrom_append, inductionHypothesis]
      rfl
  rw [value, valueFrom_append, zeros, value]

/-- Reading a written number gives it back. -/
theorem read?_write (number : Nat) : read? (write number) = some number := by
  have digits : (write number).all isDigit = true :=
    List.all_eq_true.2 fun _ member => isDigit_of_mem_write member
  simp [read?, digits, write_ne_nil, value_write]

end QueryMacros.Numeral
