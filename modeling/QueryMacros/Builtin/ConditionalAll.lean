import QueryMacros.Context.Reference
import QueryMacros.Macro.Applier
import QueryMacros.Sql.Literal

/-!
# The conditional macro

`$__conditionalAll(condition, reference)` keeps a condition while the variable
that it depends on narrows the query, and drops it otherwise.
-/
namespace QueryMacros.Builtin

open Macro

variable {σ : Type}

/-- `$__conditionalAll(condition, reference)`: the condition if the reference is
selective, and what always holds if it is not. -/
def conditionalAll : Applier σ where
  name := "$__conditionalAll"
  named := by decide
  expand _ invocation context := do
    match ← ofExcept (invocation.requireArguments 2) with
    | [condition, reference] =>
        match variableName? reference with
        | some name =>
            return if context.isSelective reference name then condition else Sql.always
        | none => throw (.notReference invocation.name reference)
    | _ => throw (.arity invocation.name 2)

end QueryMacros.Builtin
