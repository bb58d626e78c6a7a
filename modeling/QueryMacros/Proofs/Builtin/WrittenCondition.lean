import QueryMacros.Builtin.AdHocFilter

/-!
# How a condition is written

A filter is written as a condition on a column in one of five ways. Without a value it says
that the column is NULL or that it is not. With a value it compares the column with the
literal of the value: as a pattern, as the absence of a pattern, or by one of six signs. In
a literal each backslash and each quote of the value is written twice.

This is said here without the functions that write conditions and literals. They write what
is said, in every case, and nothing else: a filter has a condition exactly if it has a value
or asks for equality.
-/
namespace QueryMacros

namespace Sql

/-- How a value is written inside a literal: backslashes and quotes are written twice, and
every other character once. -/
inductive Spelled : Text → Text → Prop where
  | nil : Spelled [] []
  | twice {c : Char} {value written : Text} (marked : c = '\\' ∨ c = '\'')
      (others : Spelled value written) : Spelled (c :: value) (c :: c :: written)
  | once {c : Char} {value written : Text} (plain : c ≠ '\\' ∧ c ≠ '\'')
      (others : Spelled value written) : Spelled (c :: value) (c :: written)

/-- A literal of a value stands between two quotes. -/
def IsLiteral (value literal : Text) : Prop :=
  ∃ written, Spelled value written ∧ literal = '\'' :: written ++ ['\'']

/-- A value is spelled in one way, character by character. One direction is by induction
on the spelling, the other by induction on the value. -/
theorem spelled_iff {value written : Text} :
    Spelled value written ↔ written = value.flatMap quoteCharacter := by
  constructor
  · intro spelled
    induction spelled with
    | nil => rfl
    | twice marked _ inductionHypothesis =>
      rw [List.flatMap_cons, ← inductionHypothesis]
      rcases marked with rfl | rfl
      · rfl
      · rfl
    | once plain _ inductionHypothesis =>
      rw [List.flatMap_cons, ← inductionHypothesis, quoteCharacter, if_neg plain.1,
        if_neg plain.2]
      rfl
  · rintro rfl
    induction value with
    | nil => exact .nil
    | cons c value inductionHypothesis =>
      rw [List.flatMap_cons, quoteCharacter]
      by_cases backslash : c = '\\'
      · subst backslash
        exact .twice (.inl rfl) inductionHypothesis
      by_cases quote : c = '\''
      · subst quote
        exact .twice (.inr rfl) inductionHypothesis
      · rw [if_neg backslash, if_neg quote]
        exact .once ⟨backslash, quote⟩ inductionHypothesis

/-- A value has one literal, which is the value quoted. -/
theorem isLiteral_iff {value literal : Text} : IsLiteral value literal ↔ literal = quote value := by
  unfold IsLiteral
  simp only [spelled_iff, exists_eq_left]
  rfl

end Sql

namespace Builtin

open Sql (IsLiteral isLiteral_iff)

variable {σ : Type}

/-- The operators that compare by a sign, each with its sign. -/
def signs : List (FilterOperator × Text) :=
  [(.equal, "="), (.notEqual, "!="), (.less, "<"), (.greater, ">"), (.lessOrEqual, "<="),
    (.greaterOrEqual, ">=")]

/-- How a filter is written as a condition on a column, if its value is substituted first. -/
inductive WrittenAs (substitute : Text → Text) (column : Text) : AdHocFilter → Text → Prop where
  | isNull {key : Text} :
      WrittenAs substitute column ⟨key, .equal, none⟩ (column ++ " IS NULL")
  | isNotNull {key : Text} :
      WrittenAs substitute column ⟨key, .notEqual, none⟩ (column ++ " IS NOT NULL")
  | like {key value literal : Text} (quoted : IsLiteral (substitute value) literal) :
      WrittenAs substitute column ⟨key, .like, some value⟩
        ("toString(" ++ column ++ ") LIKE " ++ literal)
  | notLike {key value literal : Text} (quoted : IsLiteral (substitute value) literal) :
      WrittenAs substitute column ⟨key, .notLike, some value⟩
        ("toString(" ++ column ++ ") NOT LIKE " ++ literal)
  | compared {key value literal sign : Text} {operator : FilterOperator}
      (signed : (operator, sign) ∈ signs) (quoted : IsLiteral (substitute value) literal) :
      WrittenAs substitute column ⟨key, operator, some value⟩
        (column ++ " " ++ sign ++ " " ++ literal)

/-- An operator that compares by a sign is written with the sign between two blanks. The two
operators for patterns are not of this kind. -/
theorem comparison_of_signed {operator : FilterOperator} {sign : Text}
    (signed : (operator, sign) ∈ signs) (column literal : Text) :
    comparison column literal operator = column ++ " " ++ sign ++ " " ++ literal := by
  have written : comparison column literal operator =
      column ++ ' ' :: operator.symbol ++ ' ' :: literal ∧ operator.symbol = sign := by
    simp only [signs, List.mem_cons, Prod.mk.injEq, List.not_mem_nil, or_false] at signed
    rcases signed with ⟨rfl, rfl⟩ | ⟨rfl, rfl⟩ | ⟨rfl, rfl⟩ | ⟨rfl, rfl⟩ | ⟨rfl, rfl⟩ | ⟨rfl, rfl⟩
    all_goals exact ⟨rfl, rfl⟩
  rw [written.1, written.2]
  simp

/-- A comparison with a literal is written for the filter that has its operator and value. -/
theorem writtenAs_comparison (substitute : Text → Text) (column key value : Text)
    (operator : FilterOperator) :
    WrittenAs substitute column ⟨key, operator, some value⟩
      (comparison column (Sql.quote (substitute value)) operator) := by
  have quoted : IsLiteral (substitute value) (Sql.quote (substitute value)) :=
    isLiteral_iff.2 rfl
  have bySign (sign : Text) (signed : (operator, sign) ∈ signs) :
      WrittenAs substitute column ⟨key, operator, some value⟩
        (comparison column (Sql.quote (substitute value)) operator) := by
    rw [comparison_of_signed signed]
    exact .compared signed quoted
  cases operator with
  | like => exact .like quoted
  | notLike => exact .notLike quoted
  | equal => exact bySign "=" (by decide)
  | notEqual => exact bySign "!=" (by decide)
  | less => exact bySign "<" (by decide)
  | greater => exact bySign ">" (by decide)
  | lessOrEqual => exact bySign "<=" (by decide)
  | greaterOrEqual => exact bySign ">=" (by decide)

/-- The condition on a filter is the one that is written for it, and there is none exactly
if none is written. There is a case for each way of writing, and none is left for the
operators that refuse NULL. -/
theorem filterCondition_eq_ok_iff {context : Context σ} {column part : Text}
    {filter : AdHocFilter} :
    filterCondition context column filter = .ok part ↔
      WrittenAs context.substitute column filter part := by
  constructor
  · intro rendered
    obtain ⟨key, operator, value⟩ := filter
    -- Without a value there are only the two comparisons with NULL.
    cases value with
    | some value =>
      rw [← Except.ok.inj rendered]
      exact writtenAs_comparison context.substitute column key value operator
    | none =>
      cases operator with
      | equal =>
        rw [← Except.ok.inj rendered]
        exact .isNull
      | notEqual =>
        rw [← Except.ok.inj rendered]
        exact .isNotNull
      | less | greater | lessOrEqual | greaterOrEqual | like | notLike => cases rendered
  · intro written
    cases written with
    | isNull => rfl
    | isNotNull => rfl
    | like quoted =>
      rw [isLiteral_iff.1 quoted]
      rfl
    | notLike quoted =>
      rw [isLiteral_iff.1 quoted]
      rfl
    | compared signed quoted =>
      rw [isLiteral_iff.1 quoted, ← comparison_of_signed signed]
      rfl

end Builtin

end QueryMacros
