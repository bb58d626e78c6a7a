import QueryMacros.Proofs.Number.ShortestDecimal
import QueryMacros.Proofs.Number.Thousandths
import QueryMacros.Proofs.Number.Written

/-!
# Thousandths of whole numbers

A whole number divided by a thousand is seldom a floating-point value, so the quotient is
rounded. Below 2⁴³ values lie closer together than thousandths do, so that no two numbers of
thousandths have one value: the value still tells which number was divided. Of all decimals
that stand for it the one with the fewest places is the exact quotient, since whatever lies
on a coarser grid of tens is a number of thousandths as well, and another one. A whole
quotient is a value itself, and is written as an integer.
-/
namespace QueryMacros

namespace Binary64

variable {significand : Nat} {exponent : Int}

/-! ## Spacing -/

/-- Below one a unit is a whole fraction of one. -/
theorem powerOfTwo_of_nonpos (fine : exponent ≤ 0) : powerOfTwo exponent = 1 := by
  rw [powerOfTwo, Int.toNat_of_nonpos fine]

/-- A power of two with a negative exponent undoes the whole power that stands for
it. -/
theorem zpow_mul_powerOfTwo (fine : exponent ≤ 0) :
    (2 : ℚ) ^ exponent * powerOfTwo (-exponent) = 1 := by
  rw [← cast_powerOfTwo, powerOfTwo_of_nonpos fine, Nat.cast_one]

/-- A value rounds to itself. -/
theorem rounds_self (significand : Nat) (exponent : Int) :
    Rounds significand exponent (significand * 2 ^ exponent) := by
  have middle : ((Decimal.interval significand exponent).middle : ℚ) = 4 * significand := by
    simp [Decimal.interval]
  have unit : (2 : ℚ) ^ exponent ≠ 0 := (zpow_pos two_pos exponent).ne'
  have contained := Decimal.contains_middle significand exponent
  rwa [middle, show (4 * significand : ℚ) = 4 * (significand * 2 ^ exponent) / 2 ^ exponent by
    field_simp] at contained

/-- Above the least exponent a number that rounds to a value has at least as many bits as a
significand does, but for a quarter of a unit. -/
theorem Rounds.full {number : ℚ} (rounds : Rounds significand exponent number)
    (normal : Normal significand exponent) (more : leastExponent < exponent) :
    (2 ^ 52 - 1 / 4) * 2 ^ exponent ≤ number := by
  have unit : (0 : ℚ) < 2 ^ exponent := zpow_pos two_pos exponent
  have leading : 2 ^ 52 ≤ significand := normal.2.resolve_right more.ne'
  have whole : 4 * 2 ^ 52 ≤ (Decimal.interval significand exponent).lower + 1 := by
    have narrow (bottom : significand = 2 ^ 52) :
        significand = Nat.pow 2 (precision - 1) ∧ leastExponent < exponent := ⟨bottom, more⟩
    simp only [Decimal.interval]
    split <;> omega
  have cast : (4 * 2 ^ 52 : ℚ) ≤ (Decimal.interval significand exponent).lower + 1 := by
    exact_mod_cast whole
  have low := rounds.1.1
  have scaled := mul_le_mul_of_nonneg_right cast unit.le
  rw [le_div_iff₀ unit] at low
  linarith

/-- A number that rounds to a value and has few bits in front of its point has a small
unit. -/
theorem Rounds.exponent_le {number : ℚ} (rounds : Rounds significand exponent number)
    (normal : Normal significand exponent) {bits : Int} (least : leastExponent ≤ bits)
    (small : number < (2 ^ 52 - 1 / 4) * 2 ^ (bits + 1)) : exponent ≤ bits := by
  by_contra more
  have full := rounds.full normal (least.trans_lt (not_le.1 more))
  have units : (2 : ℚ) ^ (bits + 1) ≤ 2 ^ exponent :=
    zpow_le_zpow_right₀ one_le_two (not_le.1 more)
  linarith

/-- Two numbers that round to one value are at most a unit apart. -/
theorem Rounds.close {left right : ℚ} (first : Rounds significand exponent left)
    (second : Rounds significand exponent right) : left ≤ right + 2 ^ exponent := by
  have high := first.bounds.2
  have low := second.bounds.1
  linarith

/-- A whole number that rounds to a value is the value, if the unit is not more than one. -/
theorem Rounds.eq_of_whole {number : Nat} (rounds : Rounds significand exponent (number : ℚ))
    (fine : exponent ≤ 0) : significand = number * powerOfTwo (-exponent) := by
  have unit : (0 : ℚ) < 2 ^ exponent := zpow_pos two_pos exponent
  have split (bound : ℚ) : bound = bound * 2 ^ exponent * powerOfTwo (-exponent) := by
    rw [mul_assoc, zpow_mul_powerOfTwo fine, mul_one]
  have positive : (0 : ℚ) < powerOfTwo (-exponent) := by exact_mod_cast powerOfTwo_pos _
  obtain ⟨low, high⟩ := rounds.bounds
  have lower : (significand : ℚ) - 1 / 2 ≤ number * powerOfTwo (-exponent) := by
    rw [split (significand - 1 / 2)]
    exact mul_le_mul_of_nonneg_right low positive.le
  have upper : (number * powerOfTwo (-exponent) : ℚ) ≤ significand + 1 / 2 := by
    rw [split (significand + 1 / 2)]
    exact mul_le_mul_of_nonneg_right high positive.le
  have below : significand < number * powerOfTwo (-exponent) + 1 := by
    have cast : (significand : ℚ) < number * powerOfTwo (-exponent) + 1 := by linarith
    exact_mod_cast cast
  have above : number * powerOfTwo (-exponent) < significand + 1 := by
    have cast : (number * powerOfTwo (-exponent) : ℚ) < significand + 1 := by linarith
    exact_mod_cast cast
  omega

/-- Thousandths are further apart than the values of a unit below one thousandth. -/
theorem Rounds.eq_of_thousandths {left right : Nat}
    (first : Rounds significand exponent ((left : ℚ) / 1000))
    (second : Rounds significand exponent ((right : ℚ) / 1000)) (fine : exponent ≤ -10) :
    left = right := by
  have unit : (2 : ℚ) ^ exponent ≤ 1 / 1024 := by
    refine (zpow_le_zpow_right₀ one_le_two fine).trans ?_
    norm_num
  have close {low high : Nat} (first : Rounds significand exponent ((high : ℚ) / 1000))
      (second : Rounds significand exponent ((low : ℚ) / 1000)) : high < low + 1 := by
    have near := first.close second
    have cast : (high : ℚ) < low + 1 := by linarith
    exact_mod_cast cast
  have below := close first second
  have above := close second first
  omega

/-! ## Division -/

/-- The quotient of a finite value is the one that its number has. -/
theorem cast_divide (significand : Nat) (exponent : Int) {divisor : Nat} (positive : divisor ≠ 0) :
    ((significand * powerOfTwo exponent : Nat) : ℚ) / (divisor * powerOfTwo (-exponent) : Nat) =
      significand * 2 ^ exponent / divisor := by
  have shifted := cast_shifted_div significand positive (-exponent)
  rw [neg_neg, zpow_neg, div_inv_eq_mul] at shifted
  rw [shifted, div_mul_eq_mul_div]

/-- A whole number with no more bits than a significand is a value itself, so that a quotient
of it is rounded only once. -/
theorem divide_ofInt_rounds {value : Int} (small : value.natAbs < 2 ^ 53) {divisor : Nat}
    (positive : divisor ≠ 0) :
    ∃ significand exponent, (ofInt value).divide divisor =
        .finite (decide (value < 0)) significand exponent ∧
      Normal significand exponent ∧
      Rounds significand exponent ((value.natAbs : ℚ) / divisor) := by
  obtain ⟨sign, whole, wholeExponent, converted⟩ :=
    nearest_finite (decide (value < 0)) 1 (small.trans (by decide))
  obtain ⟨rfl, normal, rounds⟩ := rounds_of_nearest one_ne_zero converted
  rw [Nat.cast_one, div_one] at rounds
  have fine : wholeExponent ≤ 0 := by
    refine rounds.exponent_le normal (by decide) ?_
    have fits : value.natAbs + 1 ≤ 2 ^ 53 := small
    have cast : ((value.natAbs + 1 : Nat) : ℚ) ≤ (2 ^ 53 : Nat) := by exact_mod_cast fits
    push_cast at cast
    linarith
  -- The whole number is kept as it is, so that only the division rounds.
  have exact : (whole : ℚ) * 2 ^ wholeExponent = value.natAbs := by
    have same : (whole : ℚ) = value.natAbs * powerOfTwo (-wholeExponent) := by
      exact_mod_cast rounds.eq_of_whole fine
    rw [same, mul_assoc, mul_comm (powerOfTwo (-wholeExponent) : ℚ), zpow_mul_powerOfTwo fine,
      mul_one]
  obtain ⟨negative, significand, exponent, divided⟩ :=
    divide_ofInt_finite (small.trans (by decide)) divisor
  have quotient : nearest (decide (value < 0)) (whole * powerOfTwo wholeExponent)
      (divisor * powerOfTwo (-wholeExponent)) = .finite negative significand exponent := by
    rw [ofInt, converted] at divided
    exact divided
  obtain ⟨rfl, quotientNormal, quotientRounds⟩ := rounds_of_nearest
    (Nat.mul_ne_zero positive (powerOfTwo_pos _).ne') quotient
  rw [cast_divide whole wholeExponent positive, exact] at quotientRounds
  exact ⟨significand, exponent, divided, quotientNormal, quotientRounds⟩

/-! ## Whole numbers -/

/-- A value that a whole number rounds to is that number. -/
theorem toInt?_of_whole {number : Nat} (rounds : Rounds significand exponent (number : ℚ))
    (fine : exponent ≤ 0) (negative : Bool) :
    toInt? (.finite negative significand exponent) =
      some (if negative then -(number : Int) else number) := by
  have size : significand * powerOfTwo exponent / powerOfTwo (-exponent) = number := by
    rw [powerOfTwo_of_nonpos fine, rounds.eq_of_whole fine, Nat.mul_one,
      Nat.mul_div_cancel _ (powerOfTwo_pos _)]
  rw [toInt?, if_pos (by rw [rounds.eq_of_whole fine, Nat.mul_mod_left]), size]

/-- A value that no whole number rounds to is none. -/
theorem toInt?_eq_none (fine : exponent ≤ 0)
    (broken : ∀ number : Nat, ¬ Rounds significand exponent (number : ℚ)) (negative : Bool) :
    toInt? (.finite negative significand exponent) = none := by
  rw [toInt?, if_neg]
  intro whole
  obtain ⟨number, rfl⟩ := Nat.dvd_of_mod_eq_zero whole
  have exact : ((powerOfTwo (-exponent) * number : Nat) : ℚ) * 2 ^ exponent = number := by
    rw [Nat.cast_mul, mul_comm, ← mul_assoc, zpow_mul_powerOfTwo fine, one_mul]
  refine broken number ?_
  rw [← exact]
  exact rounds_self _ exponent

end Binary64

/-! ## Places -/

namespace Decimal

open Binary64 (Rounds)

/-- A number on a grid that is not finer than thousandths is a number of thousandths. -/
theorem grid_eq_thousandths (digits : Nat) {exponent : Int} (coarse : -3 ≤ exponent) :
    (digits : ℚ) * 10 ^ exponent = (digits * 10 ^ (exponent + 3).toNat : Nat) / 1000 := by
  have power : (10 : ℚ) ^ exponent = 10 ^ (exponent + 3).toNat / 1000 := by
    rw [← zpow_natCast, Int.toNat_of_nonneg (by omega), zpow_add₀ (by norm_num)]
    norm_num
  rw [power]
  push_cast
  ring

/-- The shortest decimal of a quotient by a thousand has the places that the quotient has. -/
theorem shortest_thousandths {significand : Nat} {exponent : Int} {width count digits : Nat}
    (places : width + count = 2) (last : digits % 10 ≠ 0)
    (rounds : Rounds significand exponent ((digits * 10 ^ count : Nat) / 1000))
    (fine : exponent ≤ -10) :
    shortest significand exponent = ⟨digits, -(width + 1 : Nat)⟩ := by
  have grid (other : Nat) : (other : ℚ) * 10 ^ (-(width + 1 : Nat) : Int) =
      (other * 10 ^ count : Nat) / 1000 := by
    rw [grid_eq_thousandths other (by omega),
      show (-(width + 1 : Nat) + 3 : Int).toNat = count by omega]
  have tens : 0 < 10 ^ count := Nat.pow_pos (by decide)
  refine shortest_eq (by rwa [grid]) (fun other stands => ?_) (fun further more other stands => ?_)
    (by omega) (by omega)
  · rw [grid] at stands
    exact Nat.eq_of_mul_eq_mul_right tens (stands.eq_of_thousandths rounds fine)
  · rw [grid_eq_thousandths other (by omega)] at stands
    -- A coarser grid adds a zero to the end of the digits.
    obtain ⟨zeros, split⟩ : ∃ zeros, (further + 3).toNat = zeros + 1 + count :=
      ⟨(further + 3).toNat - 1 - count, by omega⟩
    have same := stands.eq_of_thousandths rounds fine
    rw [split, Nat.pow_add, ← Nat.mul_assoc] at same
    have shortened := Nat.eq_of_mul_eq_mul_right tens same
    rw [Nat.pow_succ, ← Nat.mul_assoc] at shortened
    exact last (by rw [← shortened, Nat.mul_mod_left])

/-- In positional notation a decimal of thousandths is the number of thousandths. -/
theorem write_thousandths {width count digits : Nat} (places : width + count = 2)
    (last : digits % 10 ≠ 0) :
    write ⟨digits, -(width + 1 : Nat)⟩ =
      Numeral.writeUnsignedThousandths (digits * 10 ^ count) := by
  have unit : powerOfTen (width + 1 : Nat) = 10 ^ (width + 1) := rfl
  rw [Numeral.writeUnsignedThousandths_shortened places last, write,
    if_neg (by simp only; omega)]
  simp only [neg_neg, unit, Int.toNat_natCast]

end Decimal

/-! ## Writing -/

namespace Binary64

/-- A whole quotient is a value itself, and is written as an integer. The quotient is a
whole number that fits, so nothing is rounded. -/
theorem writeNumber_of_whole {value : Int}
    (rounds : Rounds significand exponent ((value.natAbs : ℚ) / 1000)) (fine : exponent ≤ 0)
    (short : value.natAbs < 1000 * integerBound.natAbs) (whole : value.natAbs % 1000 = 0) :
    writeNumber (.finite (decide (value < 0)) significand exponent) =
      Numeral.writeThousandths value := by
  obtain ⟨seconds, size⟩ := Nat.dvd_of_mod_eq_zero whole
  have exact : (value.natAbs : ℚ) / 1000 = seconds := by
    rw [size]
    push_cast
    field_simp
  have signed : (if decide (value < 0) then -(seconds : Int) else seconds) = value / 1000 := by
    simp only [decide_eq_true_eq]
    split <;> omega
  have bounded : (value / 1000).natAbs < integerBound.natAbs := by omega
  have written : Numeral.writeInt (value / 1000) = Numeral.writeThousandths value := by
    have quotient : (value / 1000).natAbs = value.natAbs / 1000 := by omega
    have sign : value / 1000 < 0 ↔ value < 0 := by omega
    simp only [Numeral.writeInt, Numeral.writeThousandths, Numeral.writeUnsignedThousandths,
      sign, quotient, whole, ↓reduceIte, List.append_nil]
  rw [exact] at rounds
  rw [writeNumber, toInt?_of_whole rounds fine, signed]
  simp only [bounded, ↓reduceIte, written]

/-- A quotient that is not whole is written by its shortest decimal, which is exact. No
whole number rounds to the value either, so it is not mistaken for one; and the shortest
decimal has the places of the thousandths, less the zeros at their end. -/
theorem writeNumber_of_broken {value : Int}
    (rounds : Rounds significand exponent ((value.natAbs : ℚ) / 1000)) (fine : exponent ≤ -10)
    (broken : value.natAbs % 1000 ≠ 0) :
    writeNumber (.finite (decide (value < 0)) significand exponent) =
      Numeral.writeThousandths value := by
  have none (number : Nat) : ¬ Rounds significand exponent (number : ℚ) := by
    intro stands
    have thousandths : (number : ℚ) = (1000 * number : Nat) / 1000 := by
      push_cast
      field_simp
    rw [thousandths] at stands
    have same := stands.eq_of_thousandths rounds fine
    omega
  have inhabited : significand ≠ 0 := by
    rintro rfl
    have zero := rounds_self 0 exponent
    rw [Nat.cast_zero, zero_mul, ← Nat.cast_zero] at zero
    exact none 0 zero
  obtain ⟨width, count, digits, places, size, last⟩ := Numeral.exists_shortened broken
  rw [size] at rounds
  rw [writeNumber, toInt?_eq_none (by omega) none]
  simp only [write, inhabited, ↓reduceIte, Decimal.shortest_thousandths places last rounds fine,
    Decimal.write_thousandths places last, ← size, decide_eq_true_eq, Numeral.writeThousandths]

/-- A thousandth of a whole number is written as the exact decimal that it has, as far as
values lie closer together than thousandths do. -/
theorem writeNumber_divide_thousand {value : Int} (small : value.natAbs < 1000 * 2 ^ 43) :
    ((ofInt value).divide 1000).writeNumber = Numeral.writeThousandths value := by
  obtain ⟨significand, exponent, divided, normal, rounds⟩ :=
    divide_ofInt_rounds (small.trans (by decide)) (show 1000 ≠ 0 by decide)
  have fine : exponent ≤ -10 := by
    refine rounds.exponent_le normal (by decide) ?_
    have fits : value.natAbs + 1 ≤ 1000 * 2 ^ 43 := small
    have cast : ((value.natAbs + 1 : Nat) : ℚ) ≤ (1000 * 2 ^ 43 : Nat) := by exact_mod_cast fits
    norm_num at cast ⊢
    linarith
  push_cast at rounds
  rw [divided]
  by_cases whole : value.natAbs % 1000 = 0
  · exact writeNumber_of_whole rounds (by omega) (small.trans (by decide)) whole
  · exact writeNumber_of_broken rounds fine whole

end Binary64

end QueryMacros
