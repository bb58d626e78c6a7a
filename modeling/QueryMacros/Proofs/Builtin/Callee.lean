import QueryMacros.Proofs.Macro.Occurring
import QueryMacros.Proofs.Macro.Rewriting
import QueryMacros.Proofs.Number.Written
import QueryMacros.Registry

/-!
# What the built-in macros expand to

A *callee* names a built-in macro. In a context with a time range and without
ad-hoc filters each of them expands to its *form*: literal pieces with the trimmed
arguments between them. Nothing but the name and the arguments of an invocation
enters, so the place of an invocation does not matter; only an ad-hoc filter that
has something to filter by looks at the whole query.
-/
namespace QueryMacros

open Macro

variable {σ : Type}

/-- The built-in macros. -/
inductive Callee where
  | conditionalAll
  | adHocFilter
  | intervalSeconds
  | timeInterval
  | timeIntervalMillis
  | timeFilter
  | timeFilterMillis
  | dateFilter
  | dateTimeFilter
  | dateTimeFilterShort
  | toTime
  | toTimeMillis
  | fromTime
  | fromTimeMillis
deriving DecidableEq, Repr

namespace Callee

/-- Every built-in macro, in the order of the standard registry. -/
def all : List Callee :=
  [ .conditionalAll, .adHocFilter, .intervalSeconds, .timeInterval, .timeIntervalMillis,
    .timeFilter, .timeFilterMillis, .dateFilter, .dateTimeFilter, .dateTimeFilterShort,
    .toTime, .toTimeMillis, .fromTime, .fromTimeMillis]

/-- The name of a built-in macro. -/
def name : Callee → Text
  | .conditionalAll => "$__conditionalAll"
  | .adHocFilter => "$__adHocFilter"
  | .intervalSeconds => "$__interval_s"
  | .timeInterval => "$__timeInterval"
  | .timeIntervalMillis => "$__timeInterval_ms"
  | .timeFilter => "$__timeFilter"
  | .timeFilterMillis => "$__timeFilter_ms"
  | .dateFilter => "$__dateFilter"
  | .dateTimeFilter => "$__dateTimeFilter"
  | .dateTimeFilterShort => "$__dt"
  | .toTime => "$__toTime"
  | .toTimeMillis => "$__toTime_ms"
  | .fromTime => "$__fromTime"
  | .fromTimeMillis => "$__fromTime_ms"

/-- The number of arguments that a built-in macro takes. -/
def arity : Callee → Nat
  | .conditionalAll | .dateTimeFilter | .dateTimeFilterShort => 2
  | .timeInterval | .timeIntervalMillis | .timeFilter | .timeFilterMillis | .dateFilter => 1
  | .adHocFilter | .intervalSeconds | .toTime | .toTimeMillis | .fromTime | .fromTimeMillis => 0

/-- The applier of a built-in macro. -/
def applier : Callee → Applier σ
  | .conditionalAll => Builtin.conditionalAll
  | .adHocFilter => Builtin.adHocFilter
  | .intervalSeconds => Builtin.intervalSeconds
  | .timeInterval => Builtin.timeInterval
  | .timeIntervalMillis => Builtin.timeIntervalMillis
  | .timeFilter => Builtin.timeFilter
  | .timeFilterMillis => Builtin.timeFilterMillis
  | .dateFilter => Builtin.dateFilter
  | .dateTimeFilter => Builtin.dateTimeFilter
  | .dateTimeFilterShort => Builtin.dateTimeFilterShort
  | .toTime => Builtin.toTime
  | .toTimeMillis => Builtin.toTimeMillis
  | .fromTime => Builtin.fromTime
  | .fromTimeMillis => Builtin.fromTimeMillis

/-- The list of the built-in macros leaves none out. -/
theorem mem_all (callee : Callee) : callee ∈ all := by cases callee <;> decide

/-- The applier of a macro looks for the name of the macro. -/
@[simp] theorem applier_name (callee : Callee) :
    (callee.applier : Applier σ).name = callee.name := by
  cases callee <;> rfl

/-- The standard registry holds the built-in macros, in the order of their list. -/
theorem standard_appliers : (Registry.standard : Registry σ).appliers = all.map applier := rfl

/-! ## Names -/

/-- Whether two texts differ at some place, or the first one ends in front of a word
character of the second. -/
def partsFrom : Text → Text → Bool
  | [], [] => false
  | [], c :: _ => Text.isWord c
  | _ :: _, [] => false
  | c :: left, d :: right => c != d || partsFrom left right

/-- If two names part, a text that begins with one of them goes on with a word character
behind the other, so the other does not end there. -/
theorem isWord_head_of_partsFrom {name front rest behind : Text}
    (parts : partsFrom name front = true) (same : front ++ rest = name ++ behind) :
    behind.head?.any Text.isWord = true := by
  induction name generalizing front with
  | nil =>
    cases front with
    | nil => simp [partsFrom] at parts
    | cons c front =>
      obtain rfl : behind = c :: (front ++ rest) := same.symm
      exact parts
  | cons c name inductionHypothesis =>
    cases front with
    | nil => simp [partsFrom] at parts
    | cons d front =>
      obtain ⟨rfl, following⟩ := List.cons.inj same
      have later : partsFrom name front = true := by simpa [partsFrom] using parts
      exact inductionHypothesis later following

/-- A name that ends in a word does not occur where another text parts from it. -/
theorem nameAt?_of_partsFrom {name front : Text} (ends : name.getLast?.any Text.isWord = true)
    (parts : partsFrom name front = true) (rest : Text) :
    nameAt? name none (front ++ rest) = none := by
  cases found : nameAt? name none (front ++ rest) with
  | none => rfl
  | some behind =>
    obtain ⟨split, edge⟩ := nameAt?_eq_some_iff.1 found
    have inWord := isWord_head_of_partsFrom parts split
    simp [Text.wordEdge, ends, inWord] at edge

/-- The name of every macro ends in a word character. -/
theorem name_ends_in_word (callee : Callee) : callee.name.getLast?.any Text.isWord = true := by
  cases callee <;> decide

/-- No name of a built-in macro is the whole front of another one's call. -/
theorem partsFrom_name :
    ∀ callee ∈ all, ∀ other ∈ all, callee ≠ other →
      partsFrom callee.name (other.name ++ ['(']) = true := by
  decide +kernel

/-- No two built-in macros have the same name. -/
theorem name_injective {callee other : Callee} (same : callee.name = other.name) :
    callee = other := by
  have distinct : ∀ callee ∈ all, ∀ other ∈ all, callee.name = other.name → callee = other := by
    decide +kernel
  exact distinct callee callee.mem_all other other.mem_all same

/-- What every name begins with, and what follows that. -/
theorem name_eq_cons (callee : Callee) :
    ∃ letters, callee.name = '$' :: '_' :: letters ∧ '$' ∉ letters := by
  cases callee <;> exact ⟨_, rfl, by decide⟩

/-- No macro has an empty name. -/
theorem name_ne_nil (callee : Callee) : callee.name ≠ [] := by
  obtain ⟨letters, same, -⟩ := callee.name_eq_cons
  simp [same]

/-- A text without a dollar is silent for every built-in macro. -/
theorem silent_of_no_dollar (callee : Callee) {front : Text} (absent : '$' ∉ front) :
    Silent callee.name front := by
  obtain ⟨letters, same, -⟩ := callee.name_eq_cons
  rw [same]
  exact silent_of_not_mem absent

/-- The opening of another call is silent. -/
theorem silent_opening {callee other : Callee} (different : callee ≠ other) :
    Silent callee.name (other.name ++ ['(']) := by
  have parts := partsFrom_name callee callee.mem_all other other.mem_all different
  obtain ⟨letters, same, absent⟩ := other.name_eq_cons
  have later : '$' ∉ '_' :: (letters ++ ['(']) := by simp [absent]
  rw [same] at parts ⊢
  exact ⟨fun rest => nameAt?_of_partsFrom callee.name_ends_in_word parts rest,
    callee.silent_of_no_dollar later⟩

end Callee

end QueryMacros
