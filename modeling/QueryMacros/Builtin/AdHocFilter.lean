import QueryMacros.Macro.Applier
import QueryMacros.Sql.Literal

/-!
# The ad-hoc filter

`$__adHocFilter()` puts the filters of a dashboard into a query. A filter counts
if its key is not qualified or is qualified by the table of the query, and if
its column is a key of that table; every other filter is dropped. What is left is
joined, and if nothing is left the condition always holds.

A value reaches the query as a literal only, after substitution.
-/
namespace QueryMacros.Builtin

open Macro

variable {σ : Type}

/-- The column of a filter on a table. There is none if the key of the filter is
qualified by another table. The table of a query may itself be qualified by its
database, which the key may leave out. -/
def filterColumn? (table : Text) (filter : AdHocFilter) : Option Text :=
  match Metadata.splitQualified? filter.key with
  | none => some filter.key
  | some (qualifier, column) =>
      let bareTable := ((Metadata.splitQualified? table).map Prod.snd).getD table
      if qualifier = table ∨ qualifier = bareTable then some column else none

/-- The comparison of a column with a literal. -/
def comparison (column literal : Text) : FilterOperator → Text
  | .like => "toString(" ++ column ++ ") LIKE " ++ literal
  | .notLike => "toString(" ++ column ++ ") NOT LIKE " ++ literal
  | operator => column ++ ' ' :: operator.symbol ++ ' ' :: literal

/-- The comparison of a column with NULL, which is about equality only. -/
def nullComparison (column : Text) : FilterOperator → Except Macro.Error Text
  | .equal => .ok (column ++ " IS NULL")
  | .notEqual => .ok (column ++ " IS NOT NULL")
  | operator => .error (.invalidNullOperator column operator)

/-- The condition that a filter puts on a column. -/
def filterCondition (context : Context σ) (column : Text) (filter : AdHocFilter) :
    Except Macro.Error Text :=
  match filter.value with
  | some value => .ok (comparison column (Sql.quote (context.substitute value)) filter.operator)
  | none => nullComparison column filter.operator

/-- The filters that count for a table with the given columns, each with its
column. -/
def keptFilters (table : Text) (columns : List Text) (filters : List AdHocFilter) :
    List (Text × AdHocFilter) :=
  filters.filterMap fun filter => do
    let column ← filterColumn? table filter
    if columns.contains column then some (column, filter) else none

/-- Conditions that all have to hold. -/
def conjunction (conditions : List Text) : Text :=
  if conditions.isEmpty then Sql.always
  else List.intercalate (" AND " : String).toList conditions

/-- `$__adHocFilter()`: the filters that count for the table of the query. -/
def adHocFilter : Applier σ where
  name := adHocFilterName
  named := by decide
  expand sql invocation context := do
    let _ ← ofExcept (invocation.requireArguments 0)
    if context.filters.isEmpty then return Sql.always
    let some table := context.table sql | throw .noTable
    let some lookup := context.keys | throw .missingTableKeys
    let keys ← (lookup table).adapt fun fault => Error.unresolvableTable table fault
    let kept := keptFilters table (keys.map (·.value)) context.filters
    let conditions ← ofExcept (kept.mapM fun (column, filter) =>
      filterCondition context column filter)
    return conjunction conditions

end QueryMacros.Builtin
