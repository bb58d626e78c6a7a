import QueryMacros.Proofs.Number.Rounding

/-!
# The decimal that stands for a value

The search for a decimal goes from coarse grids to fine ones. On each grid it looks at the
two neighbours of the value only; since the interval around the value has no gaps, a grid
with any number in the interval has one of these two in it. So the search ends on the
coarsest grid that meets the interval, and if it meets the interval in one number, that
number is the result.
-/
namespace QueryMacros.Decimal

open Binary64 (Rounds)

variable {significand : Nat} {exponent : Int}

/-! ## One grid -/

/-- A value rounds to itself. -/
theorem contains_middle (significand : Nat) (exponent : Int) :
    (interval significand exponent).Contains (interval significand exponent).middle := by
  have middle : ((interval significand exponent).middle : ℚ) = 4 * significand := by
    simp [interval]
  rw [middle]
  refine Binary64.contains_interval (Nat.cast_nonneg _) ⟨by linarith, by linarith⟩
    (fun _ => ⟨?_, ?_⟩) fun _ _ => by linarith
  all_goals
    intro same
    linarith

section Grid

variable {quarter step digits : Nat}

/-- What lies between the value and a number that stands for it stands for it, too. -/
theorem holds_of_between (fine : 0 < quarter) {near far : Nat}
    (stands : (interval significand exponent).holds far quarter = true)
    (inside : far ≤ near ∧ near ≤ (interval significand exponent).middle * quarter ∨
      (interval significand exponent).middle * quarter ≤ near ∧ near ≤ far) :
    (interval significand exponent).holds near quarter = true := by
  rw [Interval.holds_iff_contains _ _ fine] at stands ⊢
  have positive : (0 : ℚ) < quarter := by exact_mod_cast fine
  have order {low high : Nat} (le : low ≤ high) : (low : ℚ) / quarter ≤ high / quarter :=
    div_le_div_of_nonneg_right (by exact_mod_cast le) positive.le
  have whole : (((interval significand exponent).middle * quarter : Nat) : ℚ) / quarter =
      (interval significand exponent).middle := by
    rw [Nat.cast_mul, mul_div_cancel_right₀ _ positive.ne']
  have middle := contains_middle significand exponent
  rw [← whole] at middle
  rcases inside with ⟨above, below⟩ | ⟨above, below⟩
  · exact stands.between middle (order above) (order below)
  · exact middle.between stands (order above) (order below)

/-- A grid that meets the interval in one number has that number as its decimal. The number
is one of the two neighbours of the value, for these lie between the value and every other
number of the grid. -/
theorem onGrid?_eq_some (fine : 0 < quarter) (coarse : 0 < step)
    (stands : (interval significand exponent).holds (digits * step) quarter = true)
    (only : ∀ other, (interval significand exponent).holds (other * step) quarter = true →
      other = digits) :
    onGrid? (interval significand exponent) quarter step = some digits := by
  have split := Nat.div_add_mod ((interval significand exponent).middle * quarter) step
  have small := Nat.mod_lt ((interval significand exponent).middle * quarter) coarse
  unfold onGrid?
  simp only
  generalize (interval significand exponent).middle * quarter / step = below at split ⊢
  have belowStep : below * step = step * below := Nat.mul_comm _ _
  have aboveStep : (below + 1) * step = step * below + step := by ring
  rcases Nat.lt_or_ge below digits with further | nearer
  · have above : (interval significand exponent).holds ((below + 1) * step) quarter = true :=
      holds_of_between fine stands
        (.inr ⟨by omega, Nat.mul_le_mul_right step further⟩)
    have missed : (interval significand exponent).holds (below * step) quarter = false := by
      rw [Bool.eq_false_iff]
      intro stands
      exact absurd (only below stands) (Nat.ne_of_lt further)
    rw [above, missed, only (below + 1) above]
  · have here : (interval significand exponent).holds (below * step) quarter = true :=
      holds_of_between fine stands (.inl ⟨Nat.mul_le_mul_right step nearer, by omega⟩)
    obtain rfl := only below here
    have missed : (interval significand exponent).holds ((below + 1) * step) quarter = false := by
      rw [Bool.eq_false_iff]
      intro stands
      exact absurd (only (below + 1) stands) (Nat.succ_ne_self below)
    rw [here, missed]

/-- If the interval holds no point of a grid, no decimal is found on it. -/
theorem onGrid?_eq_none
    (missed : ∀ other, (interval significand exponent).holds (other * step) quarter = false) :
    onGrid? (interval significand exponent) quarter step = none := by
  simp only [onGrid?, missed]

end Grid

/-! ## All grids -/

/-- The decimal on the grid of a power of ten. -/
def atExponent? (significand : Nat) (binaryExponent exponent : Int) : Option Nat :=
  onGrid? (interval significand binaryExponent)
    (Binary64.powerOfTwo (binaryExponent - 2) * powerOfTen (-exponent))
    (Binary64.powerOfTwo (2 - binaryExponent) * powerOfTen exponent)

/-- A number on the grid of a power of ten stands for a value if it rounds to the value.
Both sides compare the same quotient, once the powers of two and of ten are brought
together. -/
theorem holds_iff_rounds (significand digits : Nat) (binaryExponent exponent : Int) :
    (interval significand binaryExponent).holds
        (digits * (Binary64.powerOfTwo (2 - binaryExponent) * powerOfTen exponent))
        (Binary64.powerOfTwo (binaryExponent - 2) * powerOfTen (-exponent)) = true ↔
      Rounds significand binaryExponent (digits * 10 ^ exponent) := by
  have fine := Nat.mul_pos (Binary64.powerOfTwo_pos (binaryExponent - 2))
    (powerOfTen_pos (-exponent))
  have twos : (Binary64.powerOfTwo (binaryExponent - 2) : ℚ) ≠ 0 := by
    exact_mod_cast (Binary64.powerOfTwo_pos _).ne'
  have tens : (powerOfTen (-exponent) : ℚ) ≠ 0 := by exact_mod_cast (powerOfTen_pos _).ne'
  have unit : (2 : ℚ) ^ (2 - binaryExponent) = 4 / 2 ^ binaryExponent := by
    rw [zpow_sub₀ two_ne_zero]
    norm_num
  rw [Interval.holds_iff_contains _ _ fine, Rounds]
  push_cast
  rw [Binary64.cast_powerOfTwo (2 - binaryExponent), cast_powerOfTen exponent, neg_sub, unit]
  have same : (digits : ℚ) * (4 / 2 ^ binaryExponent *
      (Binary64.powerOfTwo (binaryExponent - 2) : ℚ) * (10 ^ exponent * powerOfTen (-exponent))) /
        (Binary64.powerOfTwo (binaryExponent - 2) * powerOfTen (-exponent)) =
          4 * (digits * 10 ^ exponent) / 2 ^ binaryExponent := by
    field_simp
  rw [same]

/-- The search ends at the first grid that has a decimal. -/
theorem search_eq {significand : Nat} {binaryExponent last : Int} {digits : Nat}
    (found : atExponent? significand binaryExponent last = some digits) {turns : Nat} {start : Int}
    (missed : ∀ exponent, last < exponent → exponent ≤ start →
      atExponent? significand binaryExponent exponent = none)
    (reached : last ≤ start) (enough : start < last + turns) :
    search significand binaryExponent turns start = ⟨digits, last⟩ := by
  induction turns generalizing start with
  | zero => omega
  | succ turns inductionHypothesis =>
    rcases eq_or_lt_of_le reached with rfl | further
    · rw [search]
      simp only [atExponent?] at found
      simp only [found]
    · have vacant := missed start further le_rfl
      simp only [atExponent?] at vacant
      rw [search]
      simp only [vacant]
      refine inductionHypothesis (fun exponent more less => missed exponent more ?_) ?_ ?_
      all_goals omega

/-- The decimal of a value is the one number that rounds to it on a grid, if none does on
any coarser grid. The search comes down from the coarsest grid, misses on every one before
this, and finds the number here. -/
theorem shortest_eq {digits : Nat} {last : Int}
    (rounds : Rounds significand exponent (digits * 10 ^ last))
    (only : ∀ other : Nat, Rounds significand exponent (other * 10 ^ last) → other = digits)
    (coarser : ∀ further, last < further → ∀ other : Nat,
      ¬ Rounds significand exponent (other * 10 ^ further))
    (low : -1100 < last) (high : last ≤ 0) :
    shortest significand exponent = ⟨digits, last⟩ := by
  have found : atExponent? significand exponent last = some digits := by
    refine onGrid?_eq_some
      (Nat.mul_pos (Binary64.powerOfTwo_pos _) (powerOfTen_pos _))
      (Nat.mul_pos (Binary64.powerOfTwo_pos _) (powerOfTen_pos _))
      ((holds_iff_rounds significand digits exponent last).2 rounds) fun other stands => ?_
    exact only other ((holds_iff_rounds significand other exponent last).1 stands)
  unfold shortest
  refine search_eq found (fun further more _ => onGrid?_eq_none fun other => ?_) ?_ ?_
  · rw [Bool.eq_false_iff]
    intro stands
    have rounds := (holds_iff_rounds significand other exponent further).1 stands
    exact coarser further more other rounds
  · omega
  · push_cast
    omega

end QueryMacros.Decimal
