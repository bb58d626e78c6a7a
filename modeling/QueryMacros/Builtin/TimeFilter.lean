import QueryMacros.Macro.Applier
import QueryMacros.Sql.TimeBound

/-!
# Time filter macros

A time filter keeps the rows whose column lies in the time range. Without a range
it keeps every row.
-/
namespace QueryMacros.Builtin

open Macro

variable {σ : Type}

/-- The expansion to the condition on the one column that is given. -/
def filterBy (bound : Instant → Text) (invocation : Invocation) (context : Context σ) :
    Expansion σ Text := do
  match ← ofExcept (invocation.requireArguments 1) with
  | column :: _ => return Sql.within bound column context.timeRange
  | [] => throw (.arity invocation.name 1)

/-- The expansion to a condition on a column of dates and one on a column of
times. -/
def filterByDateAndTime (invocation : Invocation) (context : Context σ) : Expansion σ Text := do
  match ← ofExcept (invocation.requireArguments 2) with
  | [dates, times] =>
      match context.timeRange with
      | some range =>
          return Sql.between Sql.dateBound dates range ++ " AND " ++
            Sql.between Sql.secondBound times range
      | none => return Sql.always
  | _ => throw (.arity invocation.name 2)

/-- `$__timeFilter(column)`: the times of the range, to the second. -/
def timeFilter : Applier σ where
  name := "$__timeFilter"
  named := by decide
  expand _ := filterBy Sql.secondBound

/-- `$__timeFilter_ms(column)`: the times of the range, to the millisecond. -/
def timeFilterMillis : Applier σ where
  name := "$__timeFilter_ms"
  named := by decide
  expand _ := filterBy Sql.millisecondBound

/-- `$__dateFilter(column)`: the days that the range touches. -/
def dateFilter : Applier σ where
  name := "$__dateFilter"
  named := by decide
  expand _ := filterBy Sql.dateBound

/-- `$__dateTimeFilter(dates, times)`: the days that the range touches, and the
times in it. -/
def dateTimeFilter : Applier σ where
  name := "$__dateTimeFilter"
  named := by decide
  expand _ := filterByDateAndTime

/-- `$__dt(dates, times)`: the short form of the same. -/
def dateTimeFilterShort : Applier σ where
  name := "$__dt"
  named := by decide
  expand _ := filterByDateAndTime

end QueryMacros.Builtin
