import QueryMacros.Builtin.AdHocFilter
import QueryMacros.Builtin.ConditionalAll
import QueryMacros.Builtin.Interval
import QueryMacros.Builtin.TimeBoundary
import QueryMacros.Builtin.TimeFilter

/-!
# Registries

A registry is a list of appliers. A query is expanded by each of them in turn,
every one on the text that the one before it leaves, and the first error ends
the run. Two appliers may have the same name; then the earlier one leaves little
to the later.

The order of the standard registry matters. Macros that may keep or produce the
text of others come first: the conditional, whose kept condition is expanded by
what follows, and the filters with a column argument before the boundaries, which
may stand in that argument.
-/
namespace QueryMacros

open Macro

/-- Appliers in the order in which they are applied. -/
structure Registry (σ : Type) where
  appliers : List (Applier σ)

namespace Registry

variable {σ : Type}

/-- The registry of the built-in macros. -/
def standard : Registry σ where
  appliers :=
    [ Builtin.conditionalAll,
      Builtin.adHocFilter,
      Builtin.intervalSeconds,
      Builtin.timeInterval,
      Builtin.timeIntervalMillis,
      Builtin.timeFilter,
      Builtin.timeFilterMillis,
      Builtin.dateFilter,
      Builtin.dateTimeFilter,
      Builtin.dateTimeFilterShort,
      Builtin.toTime,
      Builtin.toTimeMillis,
      Builtin.fromTime,
      Builtin.fromTimeMillis]

/-- Adds an applier that comes after all others. -/
def register (registry : Registry σ) (applier : Applier σ) : Registry σ :=
  ⟨registry.appliers ++ [applier]⟩

/-- The names of the macros in order. -/
def names (registry : Registry σ) : List Text := registry.appliers.map Applier.name

/-- The first applier of a name. -/
def find? (registry : Registry σ) (name : Text) : Option (Applier σ) :=
  registry.appliers.find? fun applier => applier.name == name

/-- Expands a query by every applier in turn. -/
def apply (registry : Registry σ) (context : Context σ) (sql : Text) : Expansion σ Text :=
  registry.appliers.foldlM (fun text applier => applier.applyAll context text) sql

end Registry

/-- Expands the built-in macros of a query. -/
def expandMacros {σ : Type} (context : Context σ) (sql : Text) : Expansion σ Text :=
  Registry.standard.apply context sql

end QueryMacros
