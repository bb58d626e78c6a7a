import QueryMacros.Text.Basic

/-!
# The order of texts

Texts are ordered by their first difference: the one with the smaller character
there comes first, and a text comes before its own extensions. Characters are
ordered by code point. The order is strict and total.
-/
namespace QueryMacros.Text

/-- Whether a text comes before another one. -/
def precedes : Text → Text → Bool
  | _, [] => false
  | [], _ :: _ => true
  | c :: left, d :: right => if c = d then precedes left right else c.toNat < d.toNat

/-- No text comes before itself. -/
theorem precedes_irrefl (text : Text) : precedes text text = false := by
  induction text with
  | nil => rfl
  | cons c rest inductionHypothesis => simp [precedes, inductionHypothesis]

/-- What precedes a text precedes all that the text precedes. -/
theorem precedes_trans {first second third : Text} (front : precedes first second = true)
    (back : precedes second third = true) : precedes first third = true := by
  induction first generalizing second third with
  | nil =>
    cases third with
    | nil => cases second <;> simp [precedes] at back
    | cons => rfl
  | cons c first inductionHypothesis =>
    cases second with
    | nil => simp [precedes] at front
    | cons d second =>
      cases third with
      | nil => simp [precedes] at back
      | cons e third =>
        simp only [precedes] at front back ⊢
        by_cases sameFront : c = d
        · subst sameFront
          by_cases sameBack : c = e
          · simp only [sameBack, ↓reduceIte] at front back ⊢
            exact inductionHypothesis front back
          · simpa [sameBack] using back
        · by_cases sameBack : d = e
          · subst sameBack
            simpa [sameFront] using front
          · simp only [sameFront, sameBack, ↓reduceIte, decide_eq_true_eq] at front back
            have smaller : c.toNat < e.toNat := Nat.lt_trans front back
            have different : c ≠ e := fun same => by simp [same] at smaller
            simp [different, smaller]

/-- Of two different texts one comes before the other. -/
theorem precedes_or_precedes {left right : Text} (different : left ≠ right) :
    precedes left right = true ∨ precedes right left = true := by
  induction left generalizing right with
  | nil =>
    cases right with
    | nil => exact absurd rfl different
    | cons => exact Or.inl rfl
  | cons c left inductionHypothesis =>
    cases right with
    | nil => exact Or.inr rfl
    | cons d right =>
      by_cases same : c = d
      · subst same
        have rest : left ≠ right := fun equal => different (by rw [equal])
        simpa [precedes] using inductionHypothesis rest
      · have codes : c.toNat ≠ d.toNat := fun equal => same (Char.toNat_inj.1 equal)
        have reversed : ¬ d = c := fun equal => same equal.symm
        simp only [precedes, same, reversed, ↓reduceIte, decide_eq_true_eq]
        omega

/-- The order is the lexicographic one of lists of characters. -/
theorem precedes_iff_lt {left right : Text} : precedes left right = true ↔ left < right := by
  induction left generalizing right with
  | nil => cases right <;> simp [precedes]
  | cons c left inductionHypothesis =>
    cases right with
    | nil => simp [precedes]
    | cons d right =>
      rw [List.cons_lt_cons_iff, precedes]
      split
      case isTrue same =>
        subst same
        simpa [Char.lt_irrefl] using inductionHypothesis
      case isFalse different =>
        simp only [decide_eq_true_eq, different, false_and, or_false]
        exact Iff.rfl

end QueryMacros.Text
