import Mathlib.Algebra.Group.Nat.Defs
import QueryMacros.Calendar.Instant
import QueryMacros.Context.Basic

/-!
# The characters of written numbers

Numbers and dates are written with digits, signs and points, and a value that is
no finite number with the letters of its name. None of these characters has a
meaning to the scans of this library. The numbers that an expansion writes are
finite, so that each of them has a digit.
-/
namespace QueryMacros

namespace Text

/-- A character that numbers and dates are written with. -/
def isNumberMark (c : Char) : Bool :=
  c.isDigit || c == '-' || c == '+' || c == '.' || c == 'N' || c == 'a' || c == 'i' || c == 'n' ||
    c == 'f'

/-- A text is written as a number if it has a character, and has no others than
those of numbers. -/
def IsNumeric (text : Text) : Prop := text ≠ [] ∧ ∀ c ∈ text, isNumberMark c = true

/-- Numbers are written with digits. -/
theorem isNumberMark_of_isDigit {c : Char} (digit : c.isDigit = true) : isNumberMark c = true := by
  simp [isNumberMark, digit]

/-- A text with nothing but the characters of numbers is numeric if it is not empty. -/
theorem isNumeric_of_all {text : Text} (inhabited : text ≠ [])
    (marks : text.all isNumberMark = true) : IsNumeric text :=
  ⟨inhabited, List.all_eq_true.1 marks⟩

/-- Two numeric texts join to one. -/
theorem isNumeric_append {left right : Text} (first : IsNumeric left) (second : IsNumeric right) :
    IsNumeric (left ++ right) := by
  refine ⟨by simp [first.1], ?_⟩
  intro c member
  rcases List.mem_append.1 member with here | there
  · exact first.2 c here
  · exact second.2 c there

/-- A character of numbers can be put in front of a numeric text. -/
theorem isNumeric_cons {c : Char} {text : Text} (mark : isNumberMark c = true)
    (numeric : IsNumeric text) : IsNumeric (c :: text) :=
  ⟨by simp, List.forall_mem_cons.2 ⟨mark, numeric.2⟩⟩

end Text

open Text

/-! ## Whole numbers and dates -/

/-- A natural number is written as a number. -/
theorem Numeral.isNumeric_write (value : Nat) : IsNumeric (write value) :=
  ⟨write_ne_nil value, fun _ member => isNumberMark_of_isDigit (isDigit_of_mem_write member)⟩

/-- A padded number is written as a number. -/
theorem Numeral.isNumeric_writePadded (width value : Nat) :
    IsNumeric (writePadded width value) := by
  refine ⟨by simp [writePadded, write_ne_nil], ?_⟩
  intro c member
  rcases List.mem_append.1 member with zero | digit
  · obtain rfl := (List.mem_replicate.1 zero).2
    decide
  · exact (isNumeric_write value).2 c digit

/-- An integer is written as a number, its sign included. -/
theorem Numeral.isNumeric_writeInt (value : Int) : IsNumeric (writeInt value) := by
  unfold writeInt
  split
  · exact isNumeric_cons (by decide) (isNumeric_write _)
  · exact isNumeric_write _

/-- A date is written with the characters of numbers, its hyphens being minus signs. -/
theorem Date.isNumeric_write (date : Date) : IsNumeric date.write := by
  have year : IsNumeric (writeYear date.year) := by
    unfold writeYear
    split
    · exact Numeral.isNumeric_writePadded 4 _
    · refine isNumeric_cons ?_ (Numeral.isNumeric_writePadded 4 _)
      split <;> decide
  have month := isNumeric_cons (c := '-') (by decide) (Numeral.isNumeric_writePadded 2 date.month)
  have day := isNumeric_cons (c := '-') (by decide) (Numeral.isNumeric_writePadded 2 date.day)
  exact isNumeric_append (isNumeric_append year month) day

/-! ## Floating-point values -/

/-- A decimal is written as a number, its point included. -/
theorem Decimal.isNumeric_write (decimal : Decimal) : IsNumeric decimal.write := by
  unfold Decimal.write
  split
  · exact Numeral.isNumeric_write _
  · exact isNumeric_append (Numeral.isNumeric_write _)
      (isNumeric_cons (by decide) (Numeral.isNumeric_writePadded _ _))

namespace Binary64

/-- A floating-point value is written with the characters of numbers. They include the
letters of the words for infinity and for what is no number. -/
theorem isNumeric_write (value : Binary64) : IsNumeric value.write := by
  have isZero : IsNumeric ("0" : Text) := isNumeric_of_all (by decide) (by decide)
  cases value with
  | notANumber => exact isNumeric_of_all (by decide) (by decide)
  | infinite negative => cases negative <;> exact isNumeric_of_all (by decide) (by decide)
  | finite negative significand exponent =>
    have size : IsNumeric
        (if significand = 0 then "0" else (Decimal.shortest significand exponent).write :
          Text) := by
      split
      · exact isZero
      · exact Decimal.isNumeric_write _
    simp only [write]
    split
    · exact isNumeric_cons (by decide) size
    · exact size

/-- So it is as a dashboard writes it. -/
theorem isNumeric_writeNumber (value : Binary64) : IsNumeric value.writeNumber := by
  unfold writeNumber
  split
  · split
    · exact Numeral.isNumeric_writeInt _
    · exact isNumeric_write value
  · exact isNumeric_write value

/-! ## Finite values -/

/-- A value that is a number. -/
def IsFinite (value : Binary64) : Prop :=
  ∃ negative significand exponent, value = .finite negative significand exponent

/-- A quotient of natural numbers is no larger in magnitude than its numerator. -/
theorem magnitude_le_log2 (numerator denominator : Nat) :
    magnitude numerator denominator ≤ numerator.log2 := by
  unfold magnitude
  simp only
  split <;> omega

/-- A rounded quotient is finite unless its numerator has very many bits. -/
theorem nearest_finite (negative : Bool) {numerator : Nat} (denominator : Nat)
    (small : numerator < 2 ^ 200) : IsFinite (nearest negative numerator denominator) := by
  unfold nearest
  by_cases zero : numerator = 0
  · exact ⟨negative, 0, leastExponent, by simp [zero]⟩
  · have logarithm : numerator.log2 < 200 := (Nat.log2_lt zero).2 small
    have bound := magnitude_le_log2 numerator denominator
    simp only [zero, ↓reduceIte]
    generalize exact : max leastExponent
      (magnitude numerator denominator - (precision - 1 : Nat)) = exponent
    have fits : exponent + 1 ≤ greatestExponent := by
      simp only [leastExponent, precision, greatestExponent] at exact ⊢
      omega
    have below : exponent ≤ greatestExponent := by omega
    simp only [fits, below, ↓reduceIte]
    split
    · exact ⟨_, _, _, rfl⟩
    · exact ⟨_, _, _, rfl⟩

/-- Rounding a quotient goes up by one at most. -/
theorem roundQuotient_le (numerator denominator : Nat) :
    roundQuotient numerator denominator ≤ numerator / denominator + 1 := by
  unfold roundQuotient
  simp only
  split
  · omega
  · split
    · omega
    · split <;> omega

/-- A whole number has its own leading bit as its magnitude. -/
theorem magnitude_one {size : Nat} (positive : size ≠ 0) : magnitude size 1 = size.log2 := by
  have leading : 2 ^ size.log2 ≤ size := Nat.log2_self_le positive
  have unit : Nat.log2 1 = 0 := by decide
  simp only [magnitude, powerOfTwo, unit]
  rw [if_pos (by simpa using leading)]
  omega

/-- A whole number keeps its size when it becomes a value. -/
theorem ofInt_bounds {value : Int} (small : value.natAbs < 2 ^ 64) :
    ∃ negative significand exponent, ofInt value = .finite negative significand exponent ∧
      significand ≤ 2 ^ 53 ∧ exponent ≤ 64 := by
  unfold ofInt nearest
  by_cases zero : value.natAbs = 0
  · exact ⟨decide (value < 0), 0, leastExponent, by simp [zero], by decide, by decide⟩
  · have logarithm : value.natAbs.log2 < 64 := (Nat.log2_lt zero).2 small
    simp only [zero, ↓reduceIte, magnitude_one zero]
    generalize exact : max leastExponent ((value.natAbs.log2 : Int) - (precision - 1 : Nat)) =
      exponent
    simp only [leastExponent, precision] at exact
    have fits : exponent + 1 ≤ greatestExponent := by
      simp only [greatestExponent]
      omega
    have below : exponent ≤ greatestExponent := by omega
    -- One of the two shifts is by nothing, so together they bring the leading bit to the top.
    have shifts : value.natAbs.log2 + 1 + (-exponent).toNat = 53 + exponent.toNat := by omega
    have scaled : value.natAbs * powerOfTwo (-exponent) < 2 ^ 53 * powerOfTwo exponent := by
      have upper : value.natAbs < 2 ^ (value.natAbs.log2 + 1) := Nat.lt_log2_self
      calc value.natAbs * powerOfTwo (-exponent)
          < 2 ^ (value.natAbs.log2 + 1) * 2 ^ (-exponent).toNat :=
            Nat.mul_lt_mul_of_pos_right upper (Nat.two_pow_pos _)
        _ = 2 ^ 53 * powerOfTwo exponent := by
            rw [← Nat.pow_add, shifts, Nat.pow_add]
            rfl
    have rounded := roundQuotient_le (value.natAbs * powerOfTwo (-exponent))
      (1 * powerOfTwo exponent)
    have quotient : value.natAbs * powerOfTwo (-exponent) / (1 * powerOfTwo exponent) < 2 ^ 53 := by
      rw [Nat.one_mul]
      exact Nat.div_lt_of_lt_mul (by rwa [Nat.mul_comm (powerOfTwo exponent)])
    simp only [fits, below, ↓reduceIte]
    split
    · exact ⟨_, _, _, rfl, by omega, by omega⟩
    · exact ⟨_, _, _, rfl, by omega, by omega⟩

/-- A whole number of at most 64 bits has a finite quotient by any divisor. -/
theorem divide_ofInt_finite {value : Int} (small : value.natAbs < 2 ^ 64) (divisor : Nat) :
    IsFinite ((ofInt value).divide divisor) := by
  obtain ⟨negative, significand, exponent, exact, significandBound, exponentBound⟩ :=
    ofInt_bounds small
  rw [exact]
  apply nearest_finite
  have power : powerOfTwo exponent ≤ 2 ^ 64 :=
    Nat.pow_le_pow_right (by decide) (by omega)
  calc significand * powerOfTwo exponent
      ≤ 2 ^ 53 * 2 ^ 64 := Nat.mul_le_mul significandBound power
    _ < 2 ^ 200 := by decide

/-- Raising a finite number to one leaves it finite. -/
theorem atLeastOne_finite {value : Binary64} (finite : IsFinite value) :
    IsFinite value.atLeastOne := by
  have one : IsFinite (nearest false 1 1) := nearest_finite false 1 (by decide)
  obtain ⟨negative, significand, exponent, rfl⟩ := finite
  unfold atLeastOne
  cases negative with
  | true => exact one
  | false =>
    simp only
    split
    · exact ⟨_, _, _, rfl⟩
    · exact one

end Binary64

/-! ## Digits -/

/-- The number of basic digits in a text. -/
def Text.digitCount (text : Text) : Nat := text.countP Char.isDigit

/-- Two texts have their digits together. -/
theorem Text.digitCount_append (left right : Text) :
    digitCount (left ++ right) = digitCount left + digitCount right :=
  List.countP_append

/-- A character in front takes no digit away. -/
theorem Text.digitCount_cons_le (c : Char) (text : Text) :
    digitCount text ≤ digitCount (c :: text) :=
  (List.sublist_cons_self c text).countP_le

/-- A natural number is written with a digit. -/
theorem Numeral.digitCount_write_pos (value : Nat) : 0 < digitCount (write value) := by
  obtain ⟨c, rest, same⟩ := List.exists_cons_of_ne_nil (write_ne_nil value)
  refine List.countP_pos_iff.2 ⟨c, same ▸ List.mem_cons_self, ?_⟩
  exact isDigit_of_mem_write (same ▸ List.mem_cons_self)

/-- An integer is written with a digit. -/
theorem Numeral.digitCount_writeInt_pos (value : Int) : 0 < digitCount (writeInt value) := by
  have digits := digitCount_write_pos value.natAbs
  unfold writeInt
  split
  · exact Nat.lt_of_lt_of_le digits (digitCount_cons_le _ _)
  · exact digits

/-- A date is written with a digit. -/
theorem Date.digitCount_write_pos (date : Date) : 0 < digitCount date.write := by
  have digits := Numeral.digitCount_write_pos date.day
  have padded : 0 < digitCount (Numeral.writePadded 2 date.day) := by
    simp only [Numeral.writePadded, digitCount_append]
    omega
  have marked := digitCount_cons_le '-' (Numeral.writePadded 2 date.day)
  simp only [Date.write, digitCount_append]
  omega

/-- A decimal is written with a digit. -/
theorem Decimal.digitCount_write_pos (decimal : Decimal) : 0 < digitCount decimal.write := by
  unfold Decimal.write
  split
  · exact Numeral.digitCount_write_pos _
  · have digits := Numeral.digitCount_write_pos
      (decimal.digits / powerOfTen (-decimal.exponent))
    simp only [digitCount_append]
    omega

/-- A finite value is written with a digit at least. -/
theorem Binary64.digitCount_writeNumber_pos {value : Binary64} (finite : IsFinite value) :
    0 < digitCount value.writeNumber := by
  have positional : 0 < digitCount value.write := by
    obtain ⟨negative, significand, exponent, rfl⟩ := finite
    have size : 0 < digitCount
        (if significand = 0 then "0" else (Decimal.shortest significand exponent).write :
          Text) := by
      split
      · decide
      · exact Decimal.digitCount_write_pos _
    simp only [write]
    split
    · exact Nat.lt_of_lt_of_le size (digitCount_cons_le _ _)
    · exact size
  unfold writeNumber
  split
  · split
    · exact Numeral.digitCount_writeInt_pos _
    · exact positional
  · exact positional

/-- The interval of a context is finite, whatever its number of milliseconds. -/
theorem Context.intervalSeconds_finite {σ : Type} (context : Context σ) :
    context.intervalSeconds.IsFinite := by
  refine Binary64.atLeastOne_finite (Binary64.divide_ofInt_finite ?_ _)
  exact context.intervalMillis.toNat_lt

/-- An instant is finitely many seconds away from the start of 1970. -/
theorem Instant.fractionalSeconds_finite (instant : Instant) :
    instant.fractionalSeconds.IsFinite := by
  refine Binary64.divide_ofInt_finite ?_ _
  have first : Date.firstDay = -96465292 := by decide
  have last : Date.lastDay = 95026236 := by decide
  have early := instant.day_ge
  have late := instant.day_le
  have second := instant.second_lt
  have nano : instant.nano < 2000000000 := by
    have bound := instant.nano_lt
    simp only [nanosPerSecond] at bound
    split at bound <;> omega
  simp only [toMillis, toSeconds, secondsPerDay, nanosPerMilli]
  omega

/-! ## First digits -/

/-- The text begins with a basic digit. -/
def Text.BeginsWithDigit (text : Text) : Prop := ∃ c rest, text = c :: rest ∧ c.isDigit = true

/-- A natural number begins with a digit. -/
theorem Numeral.beginsWithDigit_write (value : Nat) : BeginsWithDigit (write value) := by
  obtain ⟨c, rest, same⟩ := List.exists_cons_of_ne_nil (write_ne_nil value)
  exact ⟨c, rest, same, isDigit_of_mem_write (same ▸ List.mem_cons_self)⟩

/-- A decimal begins with a digit: it has no sign, and a digit in front of its point. -/
theorem Decimal.beginsWithDigit_write (decimal : Decimal) : BeginsWithDigit decimal.write := by
  unfold Decimal.write
  split
  · exact Numeral.beginsWithDigit_write _
  · obtain ⟨c, rest, same, digit⟩ := Numeral.beginsWithDigit_write
      (decimal.digits / powerOfTen (-decimal.exponent))
    simp only [same]
    exact ⟨c, _, rfl, digit⟩

/-- A finite value that is not negative is written without a sign. -/
theorem Binary64.beginsWithDigit_writeNumber (significand : Nat) (exponent : Int) :
    BeginsWithDigit (finite false significand exponent).writeNumber := by
  have positional : BeginsWithDigit (finite false significand exponent).write := by
    simp only [write, Bool.false_eq_true, ↓reduceIte]
    split
    · exact ⟨'0', [], rfl, rfl⟩
    · exact Decimal.beginsWithDigit_write _
  unfold writeNumber
  cases whole : (finite false significand exponent).toInt? with
  | none => exact positional
  | some value =>
    have natural : 0 ≤ value := by
      simp only [toInt?, Bool.false_eq_true, ↓reduceIte, Option.ite_none_right_eq_some,
        Option.some.injEq] at whole
      rw [← whole.2]
      exact Int.natCast_nonneg _
    have unsigned : Numeral.writeInt value = Numeral.write value.natAbs :=
      if_neg (Int.not_lt_of_ge natural)
    simp only [unsigned]
    split
    · exact Numeral.beginsWithDigit_write _
    · exact positional

/-- The interval of a context is not negative. -/
theorem Context.intervalSeconds_unsigned {σ : Type} (context : Context σ) :
    ∃ significand exponent, context.intervalSeconds = .finite false significand exponent := by
  have quotient : ((Binary64.ofInt context.intervalMillis.toNat).divide 1000).IsFinite := by
    refine Binary64.divide_ofInt_finite ?_ _
    exact context.intervalMillis.toNat_lt
  obtain ⟨negative, significand, exponent, exact⟩ := quotient
  have one : Binary64.nearest false 1 1 = .finite false (2 ^ 52) (-52) := by decide +kernel
  rw [Context.intervalSeconds, exact]
  unfold Binary64.atLeastOne
  cases negative with
  | true => exact ⟨_, _, one⟩
  | false =>
    simp only
    split
    · exact ⟨_, _, rfl⟩
    · exact ⟨_, _, one⟩

end QueryMacros
