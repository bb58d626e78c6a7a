import QueryMacros.Proofs.Builtin.NamedValue
import QueryMacros.Proofs.Builtin.Passes
import QueryMacros.Proofs.Macro.Grammar

/-!
# A call without arguments

Where a text has one dollar, and that begins a call without arguments, the call is the one
occurrence of its name, and the names of all other macros do not occur. So its macro puts
the expansion in its place and leaves the rest alone. If the expansion has no dollar either,
the other macros have nothing to expand, before or after.
-/
namespace QueryMacros.Callee

open Macro

variable {σ : Type}

/-- The call of a macro without arguments. -/
def bareCall (callee : Callee) : Text := callee.name ++ ['(', ')']

/-- The one invocation in a text whose only dollar belongs to the call. -/
def bareInvocation (callee : Callee) (before : Text) : Invocation where
  name := callee.name
  start := Text.utf8Length before
  stop := Text.utf8Length before + Text.utf8Length callee.bareCall
  arguments := []

section OneCall

variable {callee : Callee} {before behind : Text}

/-- Another name than that of the call does not occur. -/
theorem not_occurs_bareCall {other : Callee} (different : other ≠ callee)
    (noDollarBefore : '$' ∉ before) (noDollarBehind : '$' ∉ behind) :
    ¬ Occurs other.name (before ++ callee.bareCall ++ behind) := by
  have opening : Silent other.name (callee.name ++ ['(']) := silent_opening different
  have closing : '$' ∉ ')' :: behind := by simp [noDollarBehind]
  have split : before ++ callee.bareCall ++ behind =
      before ++ (callee.name ++ ['('] ++ ')' :: behind) := by
    simp [bareCall]
  rw [split, other.occurs_append_of_no_dollar noDollarBefore]
  apply not_occurs_of_silent other.name_ne_nil
  exact silent_append opening (other.silent_of_no_dollar closing)

/-- The call is the first occurrence of its name behind a text without a dollar. -/
theorem occurrence?_bareCall (noDollarBefore : '$' ∉ before) (behind : Text) :
    occurrence? callee.name none (before ++ callee.bareCall ++ behind) =
      some ⟨before, [], callee.bareCall, behind⟩ := by
  have silent : Silent callee.name before := callee.silent_of_no_dollar noDollarBefore
  have edge : Text.wordEdge callee.name.getLast? (some '(') = true := by
    rw [Text.wordEdge, callee.name_ends_in_word]
    decide
  have here : nameAt? callee.name none (callee.bareCall ++ behind) =
      some ('(' :: ')' :: behind) :=
    nameAt?_eq_some_iff.2 ⟨by simp [bareCall], by simpa using edge⟩
  have located : locate? callee.name none (callee.bareCall ++ behind) =
      some ([], '(' :: ')' :: behind) := locate?_of_nameAt? here
  have noArguments : argumentsOf ('(' :: [','].intercalate [] ++ ')' :: behind) = ([], behind) :=
    argumentsOf_intercalate (by simp) (by simp) behind
  have consumed : Text.upTo ('(' :: ')' :: behind) behind = ['(', ')'] :=
    Text.upTo_append ['(', ')'] behind
  rw [occurrence?, List.append_assoc, locate?_silent_append callee.name_ne_nil silent, located]
  rw [List.intercalate_nil, List.singleton_append] at noArguments
  simp [noArguments, consumed, bareCall]

/-- A macro puts its expansion in the place of the call, and leaves the expansion alone.
There is one dollar in the text, so the call is found first and nothing is found behind
it. -/
theorem applyAll_bareCall (noDollarBefore : '$' ∉ before) (noDollarBehind : '$' ∉ behind)
    (context : Context σ) :
    callee.applier.applyAll context (before ++ callee.bareCall ++ behind) = (do
      let expansion ← callee.applier.expand (before ++ callee.bareCall ++ behind)
        (callee.bareInvocation before) context
      return before ++ expansion ++ behind) := by
  have first : next? (callee.applier : Applier σ).name
      (.start (before ++ callee.bareCall ++ behind)) =
        some ⟨before, [], callee.bareCall, behind⟩ := by
    rw [applier_name]
    exact occurrence?_bareCall noDollarBefore behind
  have last (front : Text) : next? (callee.applier : Applier σ).name ⟨front, behind⟩ = none := by
    rw [next?_eq_occurrence? callee.applier.named, applier_name]
    have absent := callee.not_occurs_of_no_dollar noDollarBehind
    exact (occurrence?_eq_none_iff callee.name_ne_nil).2 absent
  have settled (expansion : Text) :
      callee.applier.applyFrom context ⟨before ++ expansion, behind⟩ =
        (pure (before ++ expansion ++ behind) : Expansion σ Text) :=
    Applier.applyFrom_of_none (last _)
  have placed : { (Occurrence.mk before [] callee.bareCall behind).invocation
      (callee.applier : Applier σ).name (.start (before ++ callee.bareCall ++ behind)) with
        arguments := [] } = callee.bareInvocation before := by
    simp [Occurrence.invocation, bareInvocation, Cursor.start, Cursor.offset, Text.utf8Length_nil]
  refine (Applier.applyFrom_of_some first).trans ?_
  simp only [List.mapM_nil, pure_bind]
  refine (congrArg (fun invocation => callee.applier.expand _ invocation context >>= _)
    placed).trans ?_
  simp only [Cursor.start, List.nil_append, settled]
  rfl

end OneCall

end QueryMacros.Callee
