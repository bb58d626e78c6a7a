import QueryMacros.Command.Error
import QueryMacros.Context.TimeRange
import QueryMacros.Context.Variable

/-!
# Parameters

A parameter of a run is a text with a form of its own: a time, a variable, or a
filter. A time is a number of milliseconds or an instant in its standard form. A
variable is a name and a value with an equals sign between them, and commas in
the value separate several values. A filter is a key, an operator and a value
with blanks between them, where the word `null` in letters of either case stands
for NULL.
-/
namespace QueryMacros.Command

/-- The integers of 64 bits. -/
def isSignedWord (value : Int) : Bool :=
  Int64.minValue.toInt ≤ value && value ≤ Int64.maxValue.toInt

/-- Reads a time. -/
def readTime (written : Text) : Except Error Instant :=
  match (Numeral.readInt? written).filter isSignedWord with
  | some millis =>
      match Instant.ofMillis? millis with
      | some instant => .ok instant
      | none => .error (.timeOutOfRange written)
  | none => (Calendar.readStrict written).mapError (.invalidTime written)

/-- Reads a variable. -/
def readVariable (written : Text) : Except Error TemplateVariable :=
  match Text.splitFirst? '=' written with
  | some (name, value) =>
      let value :=
        if value.contains ',' then .multiple ((Text.splitOn ',' value).map Text.trim)
        else .single value
      .ok ⟨Text.trim name, value⟩
  | none => .error (.invalidVariable written)

/-- The word for NULL. -/
def nullWord : Text := "null"

/-- Reads a filter. -/
def readFilter (written : Text) : Except Error AdHocFilter := do
  match Text.splitBlank? (Text.trim written) with
  | some (key, rest) =>
      let (sign, value) := (Text.splitBlank? rest).getD (rest, [])
      let operator ← (FilterOperator.read sign).mapError .unknownOperator
      let value := Text.trim value
      let value := if Text.equalsIgnoringAsciiCase value nullWord then none else some value
      return ⟨key, operator, value⟩
  | none => throw (.invalidFilter written)

end QueryMacros.Command
