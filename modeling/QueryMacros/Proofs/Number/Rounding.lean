import Mathlib.Data.Nat.Log
import Mathlib.Data.Rat.Floor
import Mathlib.Tactic.FieldSimp
import Mathlib.Tactic.Linarith
import Mathlib.Tactic.Positivity
import QueryMacros.Number.Shortest

/-!
# Numbers that round to a floating-point value

A number rounds to a value exactly if it lies in the interval around the value, whose ends
count if the significand is even. Here the interval is a set of rational numbers, and the
comparisons of whole numbers that rounding and printing make are shown to be comparisons of
these. The quotient that a value was rounded from lies in the interval of the value.
-/
namespace QueryMacros

/-! ## Powers -/

/-- Of a power and its inverse one is whole, and the other then counts as one. -/
theorem cast_pow_toNat {base : Nat} (positive : 0 < base) (exponent : Int) :
    ((base ^ exponent.toNat : Nat) : ℚ) =
      (base : ℚ) ^ exponent * (base ^ (-exponent).toNat : Nat) := by
  have nonzero : (base : ℚ) ≠ 0 := by positivity
  rcases le_total 0 exponent with natural | negative
  · obtain ⟨power, rfl⟩ := Int.eq_ofNat_of_zero_le natural
    simp
  · obtain ⟨power, rfl⟩ := Int.exists_eq_neg_ofNat negative
    simp [nonzero]

/-- The whole power of an exponent and that of its negative are in the proportion of the
power itself; one of the two is always one. -/
theorem Binary64.cast_powerOfTwo (exponent : Int) :
    (powerOfTwo exponent : ℚ) = 2 ^ exponent * powerOfTwo (-exponent) :=
  cast_pow_toNat (by decide) exponent

/-- The whole powers of ten of an exponent and of its negative are in the proportion of
the power itself. -/
theorem Decimal.cast_powerOfTen (exponent : Int) :
    (powerOfTen exponent : ℚ) = 10 ^ exponent * powerOfTen (-exponent) :=
  cast_pow_toNat (by decide) exponent

/-- A whole power of two is positive. -/
theorem Binary64.powerOfTwo_pos (exponent : Int) : 0 < powerOfTwo exponent :=
  Nat.pow_pos (by decide)

/-- A whole power of ten is positive. -/
theorem Decimal.powerOfTen_pos (exponent : Int) : 0 < powerOfTen exponent :=
  Nat.pow_pos (by decide)

/-! ## Intervals -/

namespace Decimal.Interval

/-- A number of quarters of the unit lies in an interval. -/
def Contains (interval : Interval) (quarters : ℚ) : Prop :=
  (interval.lower ≤ quarters ∧ quarters ≤ interval.upper) ∧
    (interval.closed = false → (interval.lower : ℚ) ≠ quarters ∧ quarters ≠ interval.upper)

/-- The comparison of whole numbers is one of their quotient with the ends. Each of the
four comparisons is multiplied by the unit, which is positive. -/
theorem holds_iff_contains (interval : Interval) (scaled : Nat) {unit : Nat} (positive : 0 < unit) :
    interval.holds scaled unit = true ↔ interval.Contains (scaled / unit) := by
  have above : (0 : ℚ) < unit := by exact_mod_cast positive
  have low : (interval.lower : ℚ) ≤ scaled / unit ↔ interval.lower * unit ≤ scaled := by
    rw [le_div_iff₀ above]
    exact_mod_cast Iff.rfl
  have high : (scaled : ℚ) / unit ≤ interval.upper ↔ scaled ≤ interval.upper * unit := by
    rw [div_le_iff₀ above]
    exact_mod_cast Iff.rfl
  have lowEnd : (interval.lower : ℚ) = scaled / unit ↔ interval.lower * unit = scaled := by
    rw [eq_div_iff above.ne']
    exact_mod_cast Iff.rfl
  have highEnd : (scaled : ℚ) / unit = interval.upper ↔ scaled = interval.upper * unit := by
    rw [div_eq_iff above.ne']
    exact_mod_cast Iff.rfl
  unfold holds Contains
  rw [low, high, Ne, Ne, lowEnd, highEnd]
  cases interval.closed with
  | true => simp
  | false =>
    simp only [Bool.false_eq_true, ↓reduceIte, Bool.and_eq_true, decide_eq_true_eq, true_imp_iff]
    omega

/-- What lies between two numbers of an interval lies in it. -/
theorem Contains.between {interval : Interval} {low middle high : ℚ}
    (first : interval.Contains low) (last : interval.Contains high) (above : low ≤ middle)
    (below : middle ≤ high) : interval.Contains middle := by
  refine ⟨⟨first.1.1.trans above, below.trans last.1.2⟩, fun ends => ⟨?_, ?_⟩⟩
  · exact ((lt_of_le_of_ne first.1.1 (first.2 ends).1).trans_le above).ne
  · exact (below.trans_lt (lt_of_le_of_ne last.1.2 (last.2 ends).2)).ne

end Decimal.Interval

namespace Binary64

open Decimal

/-- A number rounds to a value, up to the sign. -/
def Rounds (significand : Nat) (exponent : Int) (number : ℚ) : Prop :=
  (interval significand exponent).Contains (4 * number / 2 ^ exponent)

/-- The exponent of a value is the least possible one. -/
def Normal (significand : Nat) (exponent : Int) : Prop :=
  significand < 2 ^ 53 ∧ (2 ^ 52 ≤ significand ∨ exponent = leastExponent)

/-- A number that rounds to a value is at most half a unit away. The interval reaches two
quarters up, and two quarters down or only one. -/
theorem Rounds.bounds {significand : Nat} {exponent : Int} {number : ℚ}
    (rounds : Rounds significand exponent number) :
    (significand - 1 / 2) * 2 ^ exponent ≤ number ∧
      number ≤ (significand + 1 / 2) * 2 ^ exponent := by
  obtain ⟨⟨low, high⟩, -⟩ := rounds
  have unit : (0 : ℚ) < 2 ^ exponent := zpow_pos two_pos exponent
  rw [le_div_iff₀ unit] at low
  rw [div_le_iff₀ unit] at high
  have lower : (4 * significand - 2 : ℚ) ≤ (interval significand exponent).lower := by
    have whole : 4 * significand ≤ (interval significand exponent).lower + 2 := by
      simp only [interval]
      split <;> omega
    have cast : ((4 * significand : Nat) : ℚ) ≤
        (((interval significand exponent).lower + 2 : Nat) : ℚ) := by exact_mod_cast whole
    push_cast at cast
    linarith
  have upper : ((interval significand exponent).upper : ℚ) = 4 * significand + 2 := by
    simp [interval]
  rw [upper] at high
  constructor
  · nlinarith
  · linarith

/-! ## Quotients -/

/-- Twice a rounded quotient is at most one away from twice the exact one, and by one only
if the rounded quotient is even. Here both are multiplied by the denominator. Rounding
goes down or up as the remainder is less or more than half of the denominator; at the half
itself the quotient decides. -/
theorem roundQuotient_whole (numerator : Nat) {denominator : Nat} (positive : 0 < denominator) :
    2 * roundQuotient numerator denominator * denominator ≤ 2 * numerator + denominator ∧
      2 * numerator ≤ 2 * roundQuotient numerator denominator * denominator + denominator ∧
      (roundQuotient numerator denominator % 2 = 1 →
        2 * roundQuotient numerator denominator * denominator ≠ 2 * numerator + denominator ∧
          2 * numerator ≠
            2 * roundQuotient numerator denominator * denominator + denominator) := by
  have split := Nat.div_add_mod numerator denominator
  have small := Nat.mod_lt numerator positive
  unfold roundQuotient
  simp only
  generalize numerator / denominator = floor at split ⊢
  generalize numerator % denominator = rest at split small ⊢
  have floors : 2 * floor * denominator = 2 * (denominator * floor) := by ring
  have ceilings : 2 * (floor + 1) * denominator =
      2 * (denominator * floor) + 2 * denominator := by
    ring
  split
  · rw [floors]
    omega
  · split
    · rw [ceilings]
      omega
    · split
      · rw [floors]
        omega
      · rw [ceilings]
        omega

/-- A rounded quotient is at most one half away from the exact one, and by one half only
if it is even. This is the statement on whole numbers, divided by twice the
denominator. -/
theorem roundQuotient_bounds (numerator : Nat) {denominator : Nat} (positive : 0 < denominator) :
    ((roundQuotient numerator denominator : ℚ) - 1 / 2 ≤ numerator / denominator ∧
      (numerator / denominator : ℚ) ≤ roundQuotient numerator denominator + 1 / 2) ∧
    (roundQuotient numerator denominator % 2 = 1 →
      (roundQuotient numerator denominator : ℚ) - 1 / 2 ≠ numerator / denominator ∧
        (numerator / denominator : ℚ) ≠ roundQuotient numerator denominator + 1 / 2) := by
  have above : (0 : ℚ) < denominator := by exact_mod_cast positive
  have whole := roundQuotient_whole numerator positive
  generalize roundQuotient numerator denominator = rounded at whole ⊢
  obtain ⟨low, high, odd⟩ := whole
  have lowCast : (2 * rounded * denominator : ℚ) ≤ 2 * numerator + denominator := by
    exact_mod_cast low
  have highCast : (2 * numerator : ℚ) ≤ 2 * rounded * denominator + denominator := by
    exact_mod_cast high
  refine ⟨⟨?_, ?_⟩, fun isOdd => ⟨fun same => (odd isOdd).1 ?_, fun same => (odd isOdd).2 ?_⟩⟩
  · rw [le_div_iff₀ above]
    linarith
  · rw [div_le_iff₀ above]
    linarith
  · rw [eq_div_iff above.ne'] at same
    have cast : (2 * rounded * denominator : ℚ) = 2 * numerator + denominator := by linarith
    exact_mod_cast cast
  · rw [div_eq_iff above.ne'] at same
    have cast : (2 * numerator : ℚ) = 2 * rounded * denominator + denominator := by linarith
    exact_mod_cast cast

/-- Shifted whole numbers compare as the numbers do with the power of two between them. -/
theorem shifted_le_iff (low high : Nat) (exponent : Int) :
    low * powerOfTwo exponent ≤ high * powerOfTwo (-exponent) ↔
      (2 : ℚ) ^ exponent * low ≤ high := by
  have positive : (0 : ℚ) < powerOfTwo (-exponent) := by exact_mod_cast powerOfTwo_pos _
  rw [← Nat.cast_le (α := ℚ), Nat.cast_mul, Nat.cast_mul, cast_powerOfTwo, ← mul_assoc,
    mul_le_mul_iff_left₀ positive, mul_comm (low : ℚ)]

/-- The power of two that a magnitude stands for does not exceed the quotient, and the
next one does. -/
theorem magnitude_bounds {numerator denominator : Nat} (inhabited : numerator ≠ 0)
    (positive : denominator ≠ 0) :
    (2 : ℚ) ^ magnitude numerator denominator ≤ numerator / denominator ∧
      (numerator / denominator : ℚ) < 2 ^ (magnitude numerator denominator + 1) := by
  have above : (0 : ℚ) < denominator := by positivity
  have numeratorLow : (2 : ℚ) ^ (numerator.log2 : Int) ≤ numerator := by
    exact_mod_cast Nat.log2_self_le inhabited
  have numeratorHigh : (numerator : ℚ) < 2 ^ (numerator.log2 + 1 : Int) := by
    exact_mod_cast Nat.lt_log2_self
  have denominatorLow : (2 : ℚ) ^ (denominator.log2 : Int) ≤ denominator := by
    exact_mod_cast Nat.log2_self_le positive
  have denominatorHigh : (denominator : ℚ) < 2 ^ (denominator.log2 + 1 : Int) := by
    exact_mod_cast Nat.lt_log2_self
  have power (exponent : Int) : (0 : ℚ) < 2 ^ exponent := zpow_pos two_pos exponent
  rw [le_div_iff₀ above, div_lt_iff₀ above]
  unfold magnitude
  simp only [shifted_le_iff]
  -- The difference of the two leading places is the magnitude or one more than it, which the
  -- comparison settles.
  generalize estimated : (numerator.log2 : Int) - denominator.log2 = estimate
  have next : (2 : ℚ) ^ (numerator.log2 + 1 : Int) =
      2 ^ (estimate + 1) * 2 ^ (denominator.log2 : Int) := by
    rw [← zpow_add₀ two_ne_zero]
    congr 1
    omega
  have previous : (2 : ℚ) ^ (numerator.log2 : Int) =
      2 ^ (estimate - 1) * 2 ^ (denominator.log2 + 1 : Int) := by
    rw [← zpow_add₀ two_ne_zero]
    congr 1
    omega
  split
  · next reached =>
    refine ⟨reached, ?_⟩
    calc (numerator : ℚ)
        < 2 ^ (estimate + 1) * 2 ^ (denominator.log2 : Int) := next ▸ numeratorHigh
      _ ≤ 2 ^ (estimate + 1) * denominator :=
          mul_le_mul_of_nonneg_left denominatorLow (power _).le
  · next missed =>
    rw [Int.sub_add_cancel]
    refine ⟨?_, not_le.1 missed⟩
    calc (2 : ℚ) ^ (estimate - 1) * denominator
        ≤ 2 ^ (estimate - 1) * 2 ^ (denominator.log2 + 1 : Int) :=
          mul_le_mul_of_nonneg_left denominatorHigh.le (power _).le
      _ ≤ numerator := previous ▸ numeratorLow

/-- Shifted whole numbers have the quotient of the numbers, in units of the power of two
between them. -/
theorem cast_shifted_div (numerator : Nat) {denominator : Nat} (positive : denominator ≠ 0)
    (exponent : Int) :
    ((numerator * powerOfTwo (-exponent) : Nat) : ℚ) / (denominator * powerOfTwo exponent : Nat) =
      numerator / denominator / 2 ^ exponent := by
  have unit : (2 : ℚ) ^ exponent ≠ 0 := (zpow_pos two_pos exponent).ne'
  have shift : (powerOfTwo (-exponent) : ℚ) ≠ 0 := by exact_mod_cast (powerOfTwo_pos _).ne'
  push_cast
  rw [cast_powerOfTwo exponent]
  field_simp

/-- A number that is at most half a unit away from a significand lies in the interval
around it. Where the interval is narrower below, the number is at most a quarter below. -/
theorem contains_interval {significand : Nat} {exponent : Int} {scaled : ℚ} (natural : 0 ≤ scaled)
    (near : (significand : ℚ) - 1 / 2 ≤ scaled ∧ scaled ≤ significand + 1 / 2)
    (odd : significand % 2 = 1 →
      (significand : ℚ) - 1 / 2 ≠ scaled ∧ scaled ≠ significand + 1 / 2)
    (narrow : significand = 2 ^ 52 → leastExponent < exponent →
      (significand : ℚ) - 1 / 4 ≤ scaled) :
    (interval significand exponent).Contains (4 * scaled) := by
  obtain ⟨below, above⟩ := near
  have upper : ((interval significand exponent).upper : ℚ) = 4 * significand + 2 := by
    simp [interval]
  -- Below a power of two the neighbour is only half as far away, except for the least exponent.
  by_cases least : significand = 2 ^ 52 ∧ leastExponent < exponent
  · have lower : (interval significand exponent).lower + 1 = 4 * significand := by
      have narrowed : significand = Nat.pow 2 (precision - 1) ∧ leastExponent < exponent := least
      simp only [interval, narrowed, and_self, ↓reduceIte]
      rfl
    have lowerCast : ((interval significand exponent).lower : ℚ) + 1 = 4 * significand := by
      exact_mod_cast lower
    have closed : (interval significand exponent).closed = true := by
      simp [interval, least.1]
    have reached := narrow least.1 least.2
    refine ⟨⟨by linarith, by linarith⟩, fun ends => ?_⟩
    rw [closed] at ends
    cases ends
  · have lower : (interval significand exponent).lower = 4 * significand - 2 := by
      have wide : ¬ (significand = Nat.pow 2 (precision - 1) ∧ leastExponent < exponent) := least
      simp only [interval, wide, ↓reduceIte]
    rcases Nat.eq_zero_or_pos significand with rfl | positive
    · refine ⟨⟨?_, by linarith⟩, fun ends => absurd ends (by simp [interval])⟩
      rw [lower]
      simpa using natural
    · have lowerCast : ((interval significand exponent).lower : ℚ) = 4 * significand - 2 := by
        rw [lower, Nat.cast_sub (by omega)]
        push_cast
        ring
      refine ⟨⟨by linarith, by linarith⟩, fun ends => ?_⟩
      have isOdd : significand % 2 = 1 := by
        simpa [interval] using ends
      obtain ⟨lowEnd, highEnd⟩ := odd isOdd
      rw [lowerCast, upper]
      exact ⟨fun same => lowEnd (by linarith), fun same => highEnd (by linarith)⟩

/-- In the unit of the value closest to it a quotient has no more bits in front of its point
than a significand, and as many as that unless the unit is the least one. -/
theorem scaled_bounds {numerator denominator : Nat} {unit : Int} (inhabited : numerator ≠ 0)
    (positive : denominator ≠ 0)
    (chosen : max leastExponent (magnitude numerator denominator - (precision - 1 : Nat)) = unit) :
    (numerator / denominator / 2 ^ unit : ℚ) < 2 ^ 53 ∧
      (leastExponent < unit → (2 ^ 52 : ℚ) ≤ numerator / denominator / 2 ^ unit) := by
  obtain ⟨low, high⟩ := magnitude_bounds inhabited positive
  have power : (0 : ℚ) < 2 ^ unit := zpow_pos two_pos unit
  simp only [precision] at chosen
  rw [div_lt_iff₀ power, le_div_iff₀ power, ← zpow_natCast, ← zpow_natCast,
    ← zpow_add₀ two_ne_zero, ← zpow_add₀ two_ne_zero]
  constructor
  · exact high.trans_le (zpow_le_zpow_right₀ one_le_two (by omega))
  · intro more
    exact (zpow_le_zpow_right₀ one_le_two (by omega)).trans low

section Significand

variable {unit : Int} {scaled : ℚ}

/-- A significand that fits is the one of the value, and has all of its bits. -/
theorem rounds_of_short {whole : Nat} (natural : 0 ≤ scaled) (least : leastExponent ≤ unit)
    (full : leastExponent < unit → 2 ^ 52 ≤ scaled)
    (near : (whole : ℚ) - 1 / 2 ≤ scaled ∧ scaled ≤ whole + 1 / 2)
    (odd : whole % 2 = 1 → (whole : ℚ) - 1 / 2 ≠ scaled ∧ scaled ≠ whole + 1 / 2)
    (short : whole < 2 ^ 53) :
    Normal whole unit ∧ (interval whole unit).Contains (4 * scaled) := by
  refine ⟨⟨short, ?_⟩, contains_interval natural near odd fun bottom more => ?_⟩
  · rcases eq_or_lt_of_le least with same | more
    · exact .inr same.symm
    · have cast : ((2 ^ 52 : Nat) : ℚ) < (whole + 1 : Nat) := by
        push_cast
        linarith [full more, near.2]
      exact .inl (Nat.lt_succ_iff.1 (by exact_mod_cast cast))
  · rw [bottom]
    push_cast
    linarith [full more]

/-- A significand that does not fit is the next power of two. The number is just below it,
and in the unit of that power half as far away. -/
theorem rounds_of_long (fits : scaled < 2 ^ 53) (near : 2 ^ 53 - 1 / 2 ≤ scaled) :
    Normal (2 ^ 52) (unit + 1) ∧
      (interval (2 ^ 52) (unit + 1)).Contains (4 * (scaled / 2)) := by
  refine ⟨⟨by decide, .inl le_rfl⟩, contains_interval (by linarith) ⟨?_, ?_⟩
    (fun odd => absurd odd (by decide)) fun _ _ => ?_⟩
  all_goals
    push_cast
    linarith

end Significand

/-- A quotient rounds to the value closest to it, if that is finite. -/
theorem rounds_of_nearest {negative sign : Bool} {numerator denominator significand : Nat}
    {exponent : Int} (positive : denominator ≠ 0)
    (rounded : nearest negative numerator denominator = .finite sign significand exponent) :
    sign = negative ∧ Normal significand exponent ∧
      Rounds significand exponent (numerator / denominator) := by
  by_cases vacant : numerator = 0
  · simp only [nearest, vacant, ↓reduceIte, finite.injEq] at rounded
    obtain ⟨rfl, rfl, rfl⟩ := rounded
    refine ⟨rfl, ⟨by decide, .inr rfl⟩, ?_⟩
    simp [Rounds, Interval.Contains, interval, vacant]
  · simp only [nearest, vacant, ↓reduceIte] at rounded
    generalize chosen : max leastExponent
      (magnitude numerator denominator - (precision - 1 : Nat)) = unit at rounded
    obtain ⟨fits, full⟩ := scaled_bounds vacant positive chosen
    have least : leastExponent ≤ unit := chosen ▸ le_max_left _ _
    have power : (0 : ℚ) < 2 ^ unit := zpow_pos two_pos unit
    have natural : (0 : ℚ) ≤ numerator / denominator / 2 ^ unit := by positivity
    -- In its unit the quotient is rounded to a whole number, which is the significand if it fits.
    obtain ⟨near, odd⟩ := roundQuotient_bounds (numerator * powerOfTwo (-unit))
      (Nat.mul_pos (Nat.pos_of_ne_zero positive) (powerOfTwo_pos unit))
    rw [cast_shifted_div numerator positive unit] at near odd
    generalize roundQuotient (numerator * powerOfTwo (-unit)) (denominator * powerOfTwo unit) =
      whole at near odd rounded
    split at rounded
    · next short =>
      split at rounded
      · simp only [finite.injEq] at rounded
        obtain ⟨rfl, rfl, rfl⟩ := rounded
        rw [Rounds, mul_div_assoc]
        exact ⟨rfl, rounds_of_short natural least full near odd short⟩
      · cases rounded
    · next long =>
      -- Rounding up has carried into one bit more, and can have carried no further.
      have bounded : whole ≤ 2 ^ 53 := by
        have cast : (whole : ℚ) < (2 ^ 53 + 1 : Nat) := by
          push_cast
          linarith [near.1]
        exact Nat.lt_succ_iff.1 (by exact_mod_cast cast)
      obtain rfl : whole = 2 ^ 53 := le_antisymm bounded (not_lt.1 long)
      split at rounded
      · simp only [finite.injEq] at rounded
        obtain ⟨rfl, rfl, rfl⟩ := rounded
        have halved : (4 * (numerator / denominator) / 2 ^ (unit + 1) : ℚ) =
            4 * (numerator / denominator / 2 ^ unit / 2) := by
          rw [zpow_add_one₀ two_ne_zero]
          field_simp
        have below := near.1
        push_cast at below
        rw [Rounds, halved]
        exact ⟨rfl, rounds_of_long fits below⟩
      · cases rounded

end Binary64

end QueryMacros
