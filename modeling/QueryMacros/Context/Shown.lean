import QueryMacros.Context.Basic
import QueryMacros.Text.Shown

/-!
# Contexts as they are shown

A context is shown as nested records, for people to read. Of its functions it is
shown only whether they are there; how it finds tables is not shown at all.
-/
namespace QueryMacros

/-- A record as it is shown: its name, and its fields between braces. -/
def showRecord (name : Text) (fields : List (Text × Text)) : Text :=
  name ++ " \x7b " ++
    List.intercalate (", " : String).toList
      (fields.map fun (field, value) => field ++ ": " ++ value) ++ " \x7d"

/-- A constructor with one argument as it is shown. -/
def showApplied (name argument : Text) : Text := name ++ '(' :: argument ++ [')']

/-- A list as it is shown. -/
def showList {α : Type} (showItem : α → Text) (items : List α) : Text :=
  '[' :: List.intercalate (", " : String).toList (items.map showItem) ++ [']']

/-- An optional value as it is shown. -/
def showOption {α : Type} (showValue : α → Text) : Option α → Text
  | some value => showApplied "Some" (showValue value)
  | none => "None"

/-- A truth value as it is shown. -/
def showBool (value : Bool) : Text := if value then "true" else "false"

/-- A range of time as it is shown. -/
def TimeRange.shown (range : TimeRange) : Text :=
  showRecord "TimeRange" [("from", range.start.write), ("to", range.stop.write)]

/-- The value of a variable as it is shown. -/
def VariableValue.shown : VariableValue → Text
  | .single value => showApplied "Single" (Text.shown value)
  | .multiple values => showApplied "Multi" (showList Text.shown values)

/-- A variable as it is shown. -/
def TemplateVariable.shown (templateVariable : TemplateVariable) : Text :=
  showRecord "TemplateVariable"
    [("name", Text.shown templateVariable.name),
      ("current", showRecord "CurrentValue" [("value", templateVariable.value.shown)])]

/-- A filter as it is shown. -/
def AdHocFilter.shown (filter : AdHocFilter) : Text :=
  showRecord "AdHocFilter"
    [("key", Text.shown filter.key), ("operator", filter.operator.name),
      ("value", showOption Text.shown filter.value)]

/-- A context as it is shown. -/
def Context.shown {σ : Type} (context : Context σ) : Text :=
  showRecord "Context"
    [("time_range", showOption TimeRange.shown context.timeRange),
      ("interval_ms", Numeral.write context.intervalMillis.toNat),
      ("template_vars", showList TemplateVariable.shown context.templateVariables),
      ("filters", showList AdHocFilter.shown context.filters),
      ("table_keys", showBool context.keys.isSome),
      ("replace_fn", showBool context.substitution.isSome),
      ("all_value", Text.shown context.allValue)]

end QueryMacros
