import QueryMacros.Proofs.Macro.Expansion
import QueryMacros.Proofs.Macro.Rewriting

/-!
# Where the errors of a run come from

An expansion that fails has failed in one of its parts, and every part in front of that
one has succeeded. A run of an applier consists of searches, which cannot fail, and of the
expansions of invocations. So an error that ends a run was raised by the expansion of one
invocation, however deep this stood in the arguments of others, and a run over a text
without the name does not fail at all.
-/
namespace QueryMacros.Macro

variable {σ α β : Type}

namespace Expansion

/-- Whether an outcome is a given error can be decided. -/
instance {ε : Type} [DecidableEq ε] (outcome : Except ε α) (fault : ε) :
    Decidable (outcome = .error fault) :=
  match outcome with
  | .error other => decidable_of_iff (other = fault) ⟨congrArg _, Except.error.inj⟩
  | .ok _ => isFalse (fun succeeded => by cases succeeded)

/-- Two parts in turn fail exactly if the first does, or if it succeeds and the second fails
on what it left. -/
theorem bind_eq_error {first : Expansion σ α} {second : α → Expansion σ β} {state final : σ}
    {fault : Error} :
    (first >>= second) state = (.error fault, final) ↔
      first state = (.error fault, final) ∨
        ∃ a between, first state = (.ok a, between) ∧ second a between = (.error fault, final) := by
  cases ran : first state with
  | mk outcome between =>
    cases outcome with
    | ok a =>
      rw [bind_of_ok ran]
      constructor
      · intro failed
        exact .inr ⟨a, between, rfl, failed⟩
      · rintro (failed | ⟨_, _, same, failed⟩)
        · cases failed
        · cases same
          exact failed
    | error other =>
      rw [bind_of_error ran]
      constructor
      · intro failed
        cases failed
        exact .inl rfl
      · rintro (failed | ⟨_, _, same, -⟩)
        · cases failed
          rfl
        · cases same

/-- A success is no error. -/
theorem pure_ne_error {a : α} {state final : σ} {fault : Error} :
    (pure a : Expansion σ α) state ≠ (.error fault, final) := by
  intro failed
  exact absurd (congrArg Prod.fst failed) (by intro mixed; cases mixed)

/-- Every error that an expansion ends with has a property. -/
def FailsOnly (allowed : Error → Prop) (expansion : Expansion σ α) : Prop :=
  ∀ state fault final, expansion state = (.error fault, final) → allowed fault

section FailsOnly

variable {allowed : Error → Prop}

/-- A result that is given never fails. -/
theorem FailsOnly.pure (a : α) : FailsOnly allowed (pure a : Expansion σ α) := by
  intro state fault final failed
  exact absurd failed pure_ne_error

/-- An allowed error may be raised. -/
theorem FailsOnly.throw {fault : Error} (has : allowed fault) :
    FailsOnly allowed (throw fault : Expansion σ α) := by
  intro state other final failed
  obtain rfl : fault = other := Except.error.inj (congrArg Prod.fst failed)
  exact has

/-- An outcome may be used whose errors are allowed. -/
theorem FailsOnly.ofExcept {outcome : Except Error α}
    (each : ∀ fault, outcome = .error fault → allowed fault) :
    FailsOnly allowed (ofExcept outcome : Expansion σ α) := by
  cases outcome with
  | ok a => exact FailsOnly.pure a
  | error fault => exact FailsOnly.throw (each fault rfl)

/-- An error in another form has a property if every error in that form does. -/
theorem FailsOnly.adapt {ε : Type} {f : ε → Error} (each : ∀ fault, allowed (f fault))
    (inner : ExceptT ε (StateM σ) α) : FailsOnly allowed (inner.adapt f : Expansion σ α) := by
  intro state fault final failed
  have outcome : (inner state).1.mapError f = .error fault := congrArg Prod.fst failed
  cases ran : (inner state).1 with
  | ok a =>
    rw [ran] at outcome
    cases outcome
  | error cause =>
    rw [ran] at outcome
    obtain rfl := Except.error.inj outcome
    exact each cause

/-- A run has only allowed errors if its parts have. -/
theorem FailsOnly.bind {first : Expansion σ α} {second : α → Expansion σ β}
    (here : FailsOnly allowed first) (there : ∀ a, FailsOnly allowed (second a)) :
    FailsOnly allowed (first >>= second) := by
  intro state fault final failed
  rcases bind_eq_error.1 failed with failed | ⟨a, between, -, failed⟩
  · exact here state fault final failed
  · exact there a between fault final failed

/-- Expanding a list has only allowed errors if expanding each element has. -/
theorem FailsOnly.mapM {expand : α → Expansion σ β} {list : List α}
    (each : ∀ a ∈ list, FailsOnly allowed (expand a)) : FailsOnly allowed (list.mapM expand) := by
  induction list with
  | nil => exact FailsOnly.pure []
  | cons a list inductionHypothesis =>
    obtain ⟨here, there⟩ := List.forall_mem_cons.1 each
    rw [List.mapM_cons]
    exact here.bind fun _ => (inductionHypothesis there).bind fun _ => FailsOnly.pure _

end FailsOnly

/-- Steps in turn fail exactly if one of them does, on what those in front of it left. The
induction is on the list; the first step is the one that fails, or one of those in front
of it. -/
theorem foldlM_eq_error {step : β → α → Expansion σ β} {list : List α} {start : β}
    {state final : σ} {fault : Error} :
    list.foldlM step start state = (.error fault, final) ↔
      ∃ front a rest reached between, list = front ++ a :: rest ∧
        front.foldlM step start state = (.ok reached, between) ∧
          step reached a between = (.error fault, final) := by
  induction list generalizing start state with
  | nil =>
    constructor
    · intro failed
      exact absurd failed pure_ne_error
    · rintro ⟨front, a, rest, _, _, split, -⟩
      cases front <;> cases split
  | cons a list inductionHypothesis =>
    rw [List.foldlM_cons, bind_eq_error]
    constructor
    · rintro (failed | ⟨reached, between, succeeded, failed⟩)
      · exact ⟨[], a, list, start, state, rfl, rfl, failed⟩
      · obtain ⟨front, b, rest, last, behind, rfl, ran, failed⟩ := inductionHypothesis.1 failed
        refine ⟨a :: front, b, rest, last, behind, rfl, ?_, failed⟩
        rw [List.foldlM_cons, bind_of_ok succeeded, ran]
    · rintro ⟨front, b, rest, last, behind, split, ran, failed⟩
      cases front with
      | nil =>
        obtain ⟨rfl, rfl⟩ := List.cons.inj split
        obtain ⟨rfl, rfl⟩ := pure_eq_ok.1 ran
        exact .inl failed
      | cons c front =>
        obtain ⟨rfl, rfl⟩ := List.cons.inj split
        rw [List.foldlM_cons] at ran
        obtain ⟨reached, between, succeeded, ran⟩ := bind_eq_ok.1 ran
        exact .inr ⟨reached, between, succeeded,
          inductionHypothesis.2 ⟨front, b, rest, last, behind, rfl, ran, failed⟩⟩

end Expansion

namespace Applier

open Expansion

/-- The expansion of some invocation of the macro ends with an error. -/
def Raises (applier : Applier σ) (context : Context σ) (fault : Error) : Prop :=
  ∃ sql invocation state final, invocation.name = applier.name ∧
    applier.expand sql invocation context state = (.error fault, final)

/-- An error of a run was raised by an expansion. The induction is along the search, so the
invocation may stand in the arguments of another one or behind it. -/
theorem applyFrom_failsOnly (applier : Applier σ) (context : Context σ) (cursor : Cursor) :
    FailsOnly (applier.Raises context) (applier.applyFrom context cursor) := by
  induction cursor using Cursor.search_induction applier.named with
  | absent cursor search =>
    rw [applyFrom_of_none search]
    exact FailsOnly.pure _
  | present cursor occurrence search inArguments behind =>
    rw [applyFrom_of_some search]
    refine (FailsOnly.mapM inArguments).bind fun arguments => ?_
    refine FailsOnly.bind ?_ fun replacement => behind _
    intro state fault final failed
    exact ⟨_, _, state, final, rfl, failed⟩

/-- A run that fails has found an invocation. -/
theorem findAt?_isSome_of_error {applier : Applier σ} {context : Context σ} {sql : Text}
    {state final : σ} {fault : Error}
    (failed : applier.applyAll context sql state = (.error fault, final)) :
    (findAt? applier.name sql 0).isSome = true := by
  have whole := findAt?_offset applier.name (.start sql)
  cases search : next? applier.name (.start sql) with
  | none =>
    rw [applyAll, applyFrom_of_none search] at failed
    exact absurd failed pure_ne_error
  | some occurrence =>
    rw [search] at whole
    exact congrArg Option.isSome whole

end Applier

end QueryMacros.Macro
