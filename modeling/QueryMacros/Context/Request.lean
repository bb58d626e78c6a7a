import QueryMacros.Context.Basic
import QueryMacros.Context.Form
import QueryMacros.Data.Json.Reader

/-!
# Requests

A request is the part of a context that comes with a query: the range of time,
the interval, the variables and the filters. What a request leaves out is empty,
not unchanged, so a context that takes on a request keeps nothing of these four.
-/
namespace QueryMacros

/-- What comes with a query. -/
structure Request where
  timeRange : Option TimeRange
  intervalMillis : UInt64
  templateVariables : List TemplateVariable
  filters : List AdHocFilter
deriving DecidableEq

namespace Request

open Data

/-- The request that leaves everything out. -/
def empty : Request := ⟨none, 0, [], []⟩

/-- A request as data. -/
def toData (request : Request) : Data :=
  ofFields
    [("time_range", ofOption TimeRange.toData request.timeRange),
      ("interval_ms", .whole request.intervalMillis.toNat),
      ("template_vars", ofList TemplateVariable.toData request.templateVariables),
      ("filters", ofList AdHocFilter.toData request.filters)]

/-- The request that a record describes. -/
def ofData? (surplus : Surplus) (data : Data) : Option Request := do
  match ← fields? surplus ["time_range", "interval_ms", "template_vars", "filters"] data with
  | [timeRange, interval, templateVariables, filters] =>
      return {
        timeRange :=
          ← withDefault empty.timeRange (toOption? (TimeRange.ofData? surplus)) timeRange
        intervalMillis :=
          ← withDefault empty.intervalMillis (fun written => written.toWord?.map UInt64.ofNat)
            interval
        templateVariables :=
          ← withDefault empty.templateVariables (toList? (TemplateVariable.ofData? surplus))
            templateVariables
        filters := ← withDefault empty.filters (toList? (AdHocFilter.ofData? surplus)) filters }
  | _ => none

/-- The request that a JSON text describes. -/
def read? (text : Text) : Option Request := (Json.read? text).bind (ofData? .refused)

/-- The context with the four parts of a request in place of its own. -/
def applyTo {σ : Type} (request : Request) (context : Context σ) : Context σ :=
  { context with
    timeRange := request.timeRange
    intervalMillis := request.intervalMillis
    templateVariables := request.templateVariables
    filters := request.filters }

end Request

end QueryMacros
