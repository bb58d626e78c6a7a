import QueryMacros.Calendar.Lenient
import QueryMacros.Context.Filter
import QueryMacros.Context.TimeRange
import QueryMacros.Context.Variable
import QueryMacros.Data.Record

/-!
# Parts of a context as data

What a request says of a context: instants and ranges of time, the values of
variables, and filters. An instant is a text, and it is read with some tolerance.
The value of a variable is a text or a list of texts. An operator is its sign, or
a record of that sign alone whose value is null.
-/
namespace QueryMacros

open Data

/-- An instant as data. -/
def Instant.toData (instant : Instant) : Data := .text instant.write

/-- The instant that a text describes. -/
def Instant.ofData? (data : Data) : Option Instant := data.toText?.bind Calendar.readLenient?

/-- A range of time as data. -/
def TimeRange.toData (range : TimeRange) : Data :=
  ofFields [("from", range.start.toData), ("to", range.stop.toData)]

/-- The range of time that a record describes. -/
def TimeRange.ofData? (surplus : Surplus) (data : Data) : Option TimeRange := do
  match ← fields? surplus ["from", "to"] data with
  | [start, stop] =>
      return ⟨← required Instant.ofData? start, ← required Instant.ofData? stop⟩
  | _ => none

/-- The value of a variable as data. -/
def VariableValue.toData : VariableValue → Data
  | .single value => .text value
  | .multiple values => ofList .text values

/-- The value of a variable that a text or a list describes. -/
def VariableValue.ofData? : Data → Option VariableValue
  | .text value => some (.single value)
  | data => (data.toList? toText?).map .multiple

/-- A variable as data. Its value stands in a record of its own. -/
def TemplateVariable.toData (templateVariable : TemplateVariable) : Data :=
  ofFields
    [("name", .text templateVariable.name),
      ("current", ofFields [("value", templateVariable.value.toData)])]

/-- The current value of a variable that a record describes. -/
def TemplateVariable.current? (surplus : Surplus) (data : Data) : Option VariableValue := do
  match ← fields? surplus ["value"] data with
  | [value] => required VariableValue.ofData? value
  | _ => none

/-- The variable that a record describes. -/
def TemplateVariable.ofData? (surplus : Surplus) (data : Data) : Option TemplateVariable := do
  match ← fields? surplus ["name", "current"] data with
  | [name, current] =>
      return ⟨← required toText? name, ← required (TemplateVariable.current? surplus) current⟩
  | _ => none

/-- An operator as data. -/
def FilterOperator.toData (operator : FilterOperator) : Data := .text operator.symbol

/-- The operator that a sign describes. -/
def FilterOperator.ofData? : Data → Option FilterOperator
  | .text symbol => ofSymbol? symbol
  | .record [(some symbol, .null)] => ofSymbol? symbol
  | _ => none

/-- A filter as data. -/
def AdHocFilter.toData (filter : AdHocFilter) : Data :=
  ofFields
    [("key", .text filter.key), ("operator", filter.operator.toData),
      ("value", ofOption .text filter.value)]

/-- The filter that a record describes. -/
def AdHocFilter.ofData? (surplus : Surplus) (data : Data) : Option AdHocFilter := do
  match ← fields? surplus ["key", "operator", "value"] data with
  | [key, operator, value] =>
      return {
        key := ← required toText? key
        operator := ← required FilterOperator.ofData? operator
        value := ← withDefault none (toOption? toText?) value }
  | _ => none

end QueryMacros
