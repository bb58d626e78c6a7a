import QueryMacros.Text.Basic

/-!
# Template variables

A dashboard has named values that its user selects: one value or several. A
selection says nothing if all of its values are empty, and it means everything
if the value that stands for all values is among them.
-/
namespace QueryMacros

/-- The selected value of a variable, or its selected values. -/
inductive VariableValue where
  | single (value : Text)
  | multiple (values : List Text)
deriving DecidableEq, Repr

namespace VariableValue

/-- The selected values in order. -/
def toList : VariableValue → List Text
  | .single value => [value]
  | .multiple values => values

/-- Whether no selected value has a character. -/
def isEmpty (value : VariableValue) : Bool := value.toList.all List.isEmpty

/-- Whether the value that stands for all values is selected. -/
def isAll (value : VariableValue) (allValue : Text) : Bool := value.toList.contains allValue

end VariableValue

/-- A named value of a dashboard. -/
structure TemplateVariable where
  name : Text
  value : VariableValue
deriving DecidableEq, Repr

end QueryMacros
