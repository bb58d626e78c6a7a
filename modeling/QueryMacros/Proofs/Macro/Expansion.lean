import QueryMacros.Macro.Applier

/-!
# Expansions that succeed

An expansion works on a state and may fail. One that succeeds has succeeded in each
of its parts, in turn, every part in the state that the one before it left.
-/
namespace QueryMacros.Macro.Expansion

variable {σ α β : Type}

/-- Whether an outcome is a given success can be decided. -/
instance {ε : Type} [DecidableEq α] (outcome : Except ε α) (a : α) :
    Decidable (outcome = .ok a) :=
  match outcome with
  | .ok b => decidable_of_iff (b = a) ⟨congrArg _, Except.ok.inj⟩
  | .error _ => isFalse (fun failed => by cases failed)

/-- Two parts in turn succeed exactly if the first does, and the second does on what
the first left. -/
theorem bind_eq_ok {first : Expansion σ α} {second : α → Expansion σ β} {state final : σ} {b : β} :
    (first >>= second) state = (.ok b, final) ↔
      ∃ a between, first state = (.ok a, between) ∧ second a between = (.ok b, final) := by
  change (ExceptT.bindCont second (first state).1 (first state).2 = _) ↔ _
  cases ran : first state with
  | mk outcome between =>
    cases outcome with
    | ok a =>
      constructor
      · intro succeeded
        exact ⟨a, between, rfl, succeeded⟩
      · rintro ⟨_, _, same, succeeded⟩
        obtain ⟨sameValue, rfl⟩ := Prod.mk.inj same
        obtain rfl := Except.ok.inj sameValue
        exact succeeded
    | error fault =>
      constructor
      · intro succeeded
        exact absurd (congrArg Prod.fst succeeded) (by intro failed; cases failed)
      · rintro ⟨_, _, same, -⟩
        exact absurd (congrArg Prod.fst same) (by intro failed; cases failed)

/-- Behind a success the second part goes on. -/
theorem bind_of_ok {first : Expansion σ α} {second : α → Expansion σ β} {state between : σ} {a : α}
    (succeeded : first state = (.ok a, between)) :
    (first >>= second) state = second a between := by
  change ExceptT.bindCont second (first state).1 (first state).2 = _
  rw [succeeded]
  rfl

/-- Behind an error nothing is done. -/
theorem bind_of_error {first : Expansion σ α} {second : α → Expansion σ β} {state between : σ}
    {fault : Error} (failed : first state = (.error fault, between)) :
    (first >>= second) state = (.error fault, between) := by
  change ExceptT.bindCont second (first state).1 (first state).2 = _
  rw [failed]
  rfl

/-- Only behind a success does the second part matter. -/
theorem bind_congr_of_ok {first : Expansion σ α} {second other : α → Expansion σ β}
    (same : ∀ a state between, first state = (.ok a, between) → second a = other a) :
    first >>= second = first >>= other := by
  funext state
  cases ran : first state with
  | mk outcome between =>
    cases outcome with
    | ok a => rw [bind_of_ok ran, bind_of_ok ran, same a state between ran]
    | error fault => rw [bind_of_error ran, bind_of_error ran]

/-- A result that is given ends with that result and leaves the state. -/
theorem pure_eq_ok {a b : α} {state final : σ} :
    (pure a : Expansion σ α) state = (.ok b, final) ↔ a = b ∧ state = final := by
  change ((Except.ok a : Except Error α), state) = (.ok b, final) ↔ _
  simp

/-- An error is no success. -/
theorem throw_ne_ok {fault : Error} {state final : σ} {a : α} :
    (throw fault : Expansion σ α) state ≠ (.ok a, final) := by
  intro succeeded
  exact absurd (congrArg Prod.fst succeeded) (by intro failed; cases failed)

/-- An outcome succeeds with its result and leaves the state. -/
theorem ofExcept_eq_ok {outcome : Except Error α} {state final : σ} {a : α} :
    (ofExcept outcome : Expansion σ α) state = (.ok a, final) ↔
      outcome = .ok a ∧ state = final := by
  cases outcome with
  | ok b =>
    change ((Except.ok b : Except Error α), state) = (.ok a, final) ↔ _
    simp
  | error fault =>
    constructor
    · intro succeeded
      exact absurd succeeded throw_ne_ok
    · rintro ⟨failed, -⟩
      cases failed

/-- Giving an error another form keeps every success. -/
theorem adapt_eq_ok {ε : Type} {f : ε → Error} {first : ExceptT ε (StateM σ) α} {state final : σ}
    {a : α} : (first.adapt f : Expansion σ α) state = (.ok a, final) ↔
      first state = (.ok a, final) := by
  change ((first state).1.mapError f, (first state).2) = (.ok a, final) ↔ _
  cases first state with
  | mk outcome between =>
    cases outcome with
    | ok b =>
      constructor
      · intro succeeded
        cases succeeded
        rfl
      · intro succeeded
        cases succeeded
        rfl
    | error fault =>
      constructor
      · intro succeeded
        cases succeeded
      · intro succeeded
        cases succeeded

end QueryMacros.Macro.Expansion
