import QueryMacros.Context.Filter
import QueryMacros.Metadata.Basic

/-!
# Errors of an expansion

Each error is a cause, with what its wording needs to name it. Every error
belongs to one macro, which `name` gives; the causes that only the ad-hoc filter
has do not repeat its name.
-/
namespace QueryMacros.Macro

/-- The name of the ad-hoc filter. -/
def adHocFilterName : Text := "$__adHocFilter"

/-- Why an expansion failed. -/
inductive Error where
  /-- The macro takes another number of arguments, or one of them is blank. -/
  | arity (name : Text) (count : Nat)
  | missingTimeRange (name : Text)
  /-- A filter compares with NULL by an operator other than equality. -/
  | invalidNullOperator (column : Text) (operator : FilterOperator)
  /-- There are filters, but the query names no table. -/
  | noTable
  /-- There are filters, but nothing to look up the keys of a table with. -/
  | missingTableKeys
  | unresolvableTable (table : Text) (fault : Metadata.Fault)
  /-- An argument should refer to a variable. -/
  | notReference (name token : Text)
deriving DecidableEq, Repr

namespace Error

/-- The macro that an error belongs to. -/
def name : Error → Text
  | .arity name _ | .missingTimeRange name | .notReference name _ => name
  | .invalidNullOperator _ _ | .noTable | .missingTableKeys | .unresolvableTable _ _ =>
      adHocFilterName

/-- The wording of a number of arguments. -/
def expectedArguments : Nat → Text
  | 0 => "no arguments"
  | 1 => "1 non-empty argument"
  | 2 => "2 non-empty arguments"
  | _ => "a different number of arguments"

/-- The wording of an error. -/
def message : Error → Text
  | .arity name count =>
      "failed to apply macro " ++ name ++ ": expected " ++ expectedArguments count
  | .missingTimeRange name => "cannot apply macro(s) without time range: " ++ name
  | .invalidNullOperator column operator =>
      "operator " ++ operator.symbol ++ " cannot be applied to NULL value (column " ++ column ++ ")"
  | .noTable => "cannot apply macro $__adHocFilter: unable to determine table from query"
  | .missingTableKeys => "cannot apply macro $__adHocFilter: no table key resolver configured"
  | .unresolvableTable table fault =>
      "cannot apply macro $__adHocFilter: failed to resolve keys for table " ++ table ++ ": " ++
        fault.message
  | .notReference name token =>
      "failed to apply macro " ++ name ++ ": " ++ token ++
        " is not a template variable reference"

end Error

end QueryMacros.Macro
