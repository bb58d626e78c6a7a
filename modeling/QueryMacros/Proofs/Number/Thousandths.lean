import Mathlib.Data.Rat.Defs
import Mathlib.Tactic.FieldSimp
import QueryMacros.Proofs.Calendar.RoundTrip
import QueryMacros.Proofs.Sql.Bounds

/-!
# Thousandths in decimals

A whole number of thousandths has a decimal of three places at most. It is written with a
sign if it is negative, with the digits in front of the point as any whole number has them,
and with a point only if there is a place behind it that is not zero; zeros at the end are
left out. Reading it gives the exact number of thousandths back, so no two numbers are
written alike.
-/
namespace QueryMacros

namespace Text

/-- A text is cut in front of its first separator. -/
theorem splitFirst?_append_cons {separator : Char} {front : Text} (absent : separator ∉ front)
    (rest : Text) : splitFirst? separator (front ++ separator :: rest) = some (front, rest) := by
  induction front with
  | nil => exact if_pos rfl
  | cons c front inductionHypothesis =>
    obtain ⟨different, later⟩ := not_or.1 (mt List.mem_cons.2 absent)
    rw [List.cons_append, splitFirst?, if_neg (Ne.symm different), inductionHypothesis later]
    rfl

/-- A text without the separator is not split. -/
theorem splitFirst?_of_not_mem {separator : Char} {text : Text} (absent : separator ∉ text) :
    splitFirst? separator text = none := by
  induction text with
  | nil => rfl
  | cons c text inductionHypothesis =>
    obtain ⟨different, later⟩ := not_or.1 (mt List.mem_cons.2 absent)
    rw [splitFirst?, if_neg (Ne.symm different), inductionHypothesis later]
    rfl

/-- What is dropped at the end of a text stands behind its last character that is kept. -/
theorem dropEndWhile_of_last {test : Char → Bool} {front back : Text} {last : Char}
    (kept : test last = false) (dropped : back.all test = true) :
    dropEndWhile test (front ++ [last] ++ back) = front ++ [last] := by
  rw [dropEndWhile_append_of_all dropped, dropEndWhile, List.reverse_append,
    List.reverse_singleton, List.singleton_append, List.dropWhile_cons_of_neg (by simp [kept]),
    List.reverse_cons, List.reverse_reverse]

end Text

namespace Numeral

/-! ## Zeros at the end -/

/-- Ten times a number has one zero more. -/
theorem write_ten_mul {value : Nat} (positive : 0 < value) :
    write (10 * value) = write value ++ ['0'] := by
  rw [write, if_neg (by omega), Nat.mul_div_cancel_left value (by decide), Nat.mul_mod_right]
  rfl

/-- Ten times a number has one zero more at the end. -/
theorem writePadded_ten_mul (width value : Nat) :
    writePadded (width + 2) (10 * value) = writePadded (width + 1) value ++ ['0'] := by
  rcases Nat.eq_zero_or_pos value with rfl | positive
  · have zero : write 0 = ['0'] := by
      rw [write]
      rfl
    simp only [writePadded, Nat.mul_zero, zero, List.length_singleton, Nat.add_sub_cancel]
    rw [show width + 2 - 1 = width + 1 from rfl, List.replicate_succ']
  · have longer : (write (10 * value)).length = (write value).length + 1 := by
      rw [write_ten_mul positive, List.length_append, List.length_singleton]
    have missing : width + 2 - ((write value).length + 1) = width + 1 - (write value).length := by
      omega
    rw [writePadded, writePadded, longer, missing, write_ten_mul positive, List.append_assoc]

/-- A power of ten times a number has as many zeros more at the end. -/
theorem writePadded_mul_pow (width value count : Nat) :
    writePadded (width + 1 + count) (value * 10 ^ count) =
      writePadded (width + 1) value ++ List.replicate count '0' := by
  induction count with
  | zero => simp
  | succ count inductionHypothesis =>
    rw [Nat.pow_succ, ← Nat.mul_assoc, Nat.mul_comm _ 10, ← Nat.add_assoc,
      show width + 1 + count + 1 = width + count + 2 by omega, writePadded_ten_mul,
      show width + count + 1 = width + 1 + count by omega, inductionHypothesis,
      List.replicate_succ', List.append_assoc]

/-- The last digit of a number is its remainder by ten. -/
theorem writePadded_eq_concat (width value : Nat) :
    ∃ front, writePadded width value = front ++ [digit (value % 10)] := by
  have last : ∃ front, write value = front ++ [digit (value % 10)] := by
    rw [write]
    split
    · next small => exact ⟨[], by rw [Nat.mod_eq_of_lt small, List.nil_append]⟩
    · exact ⟨_, rfl⟩
  obtain ⟨front, same⟩ := last
  exact ⟨_, by rw [writePadded, same, ← List.append_assoc]⟩

/-- A digit is zero only for the number zero. -/
theorem digit_ne_zero {value : Nat} (small : value < 10) (positive : value ≠ 0) :
    digit value ≠ '0' := by
  intro zero
  have same := digitValue_digit small
  rw [zero] at same
  exact positive same.symm

/-- Without the zeros at its end a fraction has the digits that it is given in its shortest
form. -/
theorem dropEndWhile_writePadded {width value : Nat} (last : value % 10 ≠ 0) (count : Nat) :
    Text.dropEndWhile (· == '0') (writePadded (width + 1 + count) (value * 10 ^ count)) =
      writePadded (width + 1) value := by
  obtain ⟨front, same⟩ := writePadded_eq_concat (width + 1) value
  have kept : (digit (value % 10) == '0') = false :=
    beq_false_of_ne (digit_ne_zero (Nat.mod_lt _ (by decide)) last)
  have dropped : (List.replicate count '0').all (· == '0') = true := by simp
  rw [writePadded_mul_pow, same]
  exact Text.dropEndWhile_of_last kept dropped

/-! ## Writing -/

/-- A natural number of thousandths as a decimal. -/
def writeUnsignedThousandths (size : Nat) : Text :=
  write (size / 1000) ++
    if size % 1000 = 0 then []
    else '.' :: Text.dropEndWhile (· == '0') (writePadded 3 (size % 1000))

/-- A number of thousandths as a decimal, with a minus sign if it is negative. -/
def writeThousandths (value : Int) : Text :=
  if value < 0 then '-' :: writeUnsignedThousandths value.natAbs
  else writeUnsignedThousandths value.natAbs

/-- A number that is not a whole thousand is a power of ten times one that does not end in a
zero. -/
theorem exists_shortened {size : Nat} (broken : size % 1000 ≠ 0) :
    ∃ width count digits, width + count = 2 ∧ size = digits * 10 ^ count ∧ digits % 10 ≠ 0 := by
  by_cases tenth : size % 10 = 0
  · by_cases hundredth : size % 100 = 0
    · exact ⟨0, 2, size / 100, rfl, by omega, by omega⟩
    · exact ⟨1, 1, size / 10, rfl, by omega, by omega⟩
  · exact ⟨2, 0, size, rfl, by omega, tenth⟩

/-- The places that are kept and those that are left out make up a thousand. -/
theorem thousand_eq {width count : Nat} (places : width + count = 2) :
    10 ^ (width + 1) * 10 ^ count = 1000 := by
  rw [← Nat.pow_add, show width + 1 + count = 3 by omega]

/-- The places behind the point are the last digits of the shortened number. -/
theorem writeUnsignedThousandths_shortened {width count digits : Nat}
    (places : width + count = 2) (last : digits % 10 ≠ 0) :
    writeUnsignedThousandths (digits * 10 ^ count) =
      write (digits / 10 ^ (width + 1)) ++
        '.' :: writePadded (width + 1) (digits % 10 ^ (width + 1)) := by
  have tens : 0 < 10 ^ count := Nat.pow_pos (by decide)
  have whole : digits * 10 ^ count / 1000 = digits / 10 ^ (width + 1) := by
    rw [← thousand_eq places, Nat.mul_div_mul_right _ _ tens]
  have fraction : digits * 10 ^ count % 1000 = digits % 10 ^ (width + 1) * 10 ^ count := by
    rw [← thousand_eq places, Nat.mul_mod_mul_right]
  have lastPlace : digits % 10 ^ (width + 1) % 10 ≠ 0 := by
    rwa [Nat.mod_mod_of_dvd _ (Dvd.intro_left (10 ^ width) (Nat.pow_succ ..).symm)]
  have broken : digits % 10 ^ (width + 1) * 10 ^ count ≠ 0 :=
    Nat.mul_ne_zero (fun zero => lastPlace (by rw [zero])) tens.ne'
  have width : 3 = width + 1 + count := by omega
  rw [writeUnsignedThousandths, whole, fraction, if_neg broken, width,
    dropEndWhile_writePadded lastPlace]

/-! ## Reading -/

/-- Reads a decimal without a sign. -/
def readUnsignedDecimal? (text : Text) : Option ℚ :=
  match Text.splitFirst? '.' text with
  | some (whole, places) => do
      return (← read? whole : Nat) + (← read? places : Nat) / (10 : ℚ) ^ places.length
  | none => (read? text).map fun value => (value : ℚ)

/-- Reads a decimal that a minus sign may precede. -/
def readDecimal? : Text → Option ℚ
  | '-' :: text => (readUnsignedDecimal? text).map (- ·)
  | text => readUnsignedDecimal? text

/-- A written number has no point. -/
theorem point_not_mem_write (value : Nat) : '.' ∉ write value := by
  intro member
  have digit := isDigit_of_mem_write member
  cases digit

/-- A written number of thousandths is read back as the thousandth part of it. -/
theorem readUnsignedDecimal?_writeUnsignedThousandths (size : Nat) :
    readUnsignedDecimal? (writeUnsignedThousandths size) = some ((size : ℚ) / 1000) := by
  by_cases whole : size % 1000 = 0
  · obtain ⟨seconds, rfl⟩ := Nat.dvd_of_mod_eq_zero whole
    have exact : ((1000 * seconds : Nat) : ℚ) / 1000 = seconds := by
      push_cast
      field_simp
    rw [writeUnsignedThousandths, if_pos whole, List.append_nil,
      Nat.mul_div_cancel_left _ (by decide), readUnsignedDecimal?,
      Text.splitFirst?_of_not_mem (point_not_mem_write _), exact, read?_write]
    rfl
  · obtain ⟨width, count, digits, places, rfl, last⟩ := exists_shortened whole
    have small : digits % 10 ^ (width + 1) < 10 ^ (width + 1) :=
      Nat.mod_lt _ (Nat.pow_pos (by decide))
    have parts : ((digits / 10 ^ (width + 1) : Nat) : ℚ) +
        (digits % 10 ^ (width + 1) : Nat) / 10 ^ (width + 1) =
          (digits * 10 ^ count : Nat) / 1000 := by
      have thousand : (1000 : ℚ) = 10 ^ (width + 1) * 10 ^ count := by
        exact_mod_cast (thousand_eq places).symm
      have split : ((10 ^ (width + 1) * (digits / 10 ^ (width + 1)) +
          digits % 10 ^ (width + 1) : Nat) : ℚ) = digits :=
        congrArg Nat.cast (Nat.div_add_mod digits (10 ^ (width + 1)))
      rw [thousand, Nat.cast_mul, ← split]
      push_cast
      field_simp
    rw [writeUnsignedThousandths_shortened places last, readUnsignedDecimal?,
      Text.splitFirst?_append_cons (point_not_mem_write _), ← parts]
    simp only [read?_write, read?_writePadded, length_writePadded small]
    rfl

/-- Reading a number of thousandths gives it back exactly. -/
theorem readDecimal?_writeThousandths (value : Int) :
    readDecimal? (writeThousandths value) = some ((value : ℚ) / 1000) := by
  have read := readUnsignedDecimal?_writeUnsignedThousandths value.natAbs
  unfold writeThousandths
  by_cases negative : value < 0
  · have size : (value : ℚ) = -(value.natAbs : ℚ) := by
      exact_mod_cast (by omega : value = -(value.natAbs : Int))
    rw [if_pos negative, readDecimal?, read, Option.map_some, size, neg_div]
  · have size : (value : ℚ) = value.natAbs := by
      rw [← Int.cast_natCast, Int.natAbs_of_nonneg (not_lt.1 negative)]
    obtain ⟨c, rest, front, digit⟩ := beginsWithDigit_write (value.natAbs / 1000)
    rw [if_neg negative, size, ← read, writeUnsignedThousandths, front, List.cons_append]
    unfold readDecimal?
    split
    · next same =>
      rw [(List.cons.inj same).1] at digit
      cases digit
    · rfl

/-- No two numbers of thousandths are written alike. -/
theorem writeThousandths_injective {left right : Int}
    (same : writeThousandths left = writeThousandths right) : left = right := by
  have read := congrArg readDecimal? same
  rw [readDecimal?_writeThousandths, readDecimal?_writeThousandths, Option.some.injEq] at read
  have cast : (left : ℚ) = right := by
    field_simp at read
    exact read
  exact_mod_cast cast

end Numeral

end QueryMacros
