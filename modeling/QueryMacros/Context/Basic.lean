import QueryMacros.Context.Filter
import QueryMacros.Context.TimeRange
import QueryMacros.Context.Variable
import QueryMacros.Metadata.Basic
import QueryMacros.Sql.Table

/-!
# Contexts

A context holds all that an expansion may look at besides the query: what the
dashboard shows and selects, and three functions of its surroundings. One finds
the table of a query, one substitutes variables in a text, and one looks up the
keys of a table. The last may work on a state, whose type the context leaves
open, and it may fail.
-/
namespace QueryMacros

/-- What an expansion may look at besides the query. -/
structure Context (σ : Type) where
  timeRange : Option TimeRange
  intervalMillis : UInt64
  templateVariables : List TemplateVariable
  filters : List AdHocFilter
  keys : Option (Text → Metadata.Lookup σ (List Metadata.TableKey))
  table : Text → Option Text
  substitution : Option (Text → Text)
  allValue : Text

namespace Context

variable {σ : Type}

/-- The value that stands for all values, unless a context has its own. -/
def defaultAllValue : Text := "$__all"

/-- The context without a range, variables, filters and functions of its own. -/
def empty : Context σ where
  timeRange := none
  intervalMillis := 0
  templateVariables := []
  filters := []
  keys := none
  table := Sql.extractTable
  substitution := none
  allValue := defaultAllValue

/-- The interval in seconds, one at least. -/
def intervalSeconds (context : Context σ) : Binary64 :=
  ((Binary64.ofInt context.intervalMillis.toNat).divide 1000).atLeastOne

/-- The interval in milliseconds, one at least. -/
def intervalMilliseconds (context : Context σ) : Nat := max context.intervalMillis.toNat 1

/-- The first variable of a name. -/
def findVariable? (context : Context σ) (name : Text) : Option TemplateVariable :=
  context.templateVariables.find? fun candidate => candidate.name == name

/-- A text with its variables substituted, or as it is where the context does not
substitute. -/
def substitute (context : Context σ) (text : Text) : Text :=
  match context.substitution with
  | some substitution => substitution text
  | none => text

end Context

end QueryMacros
