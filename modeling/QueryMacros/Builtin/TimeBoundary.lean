import QueryMacros.Macro.Applier
import QueryMacros.Sql.TimeBound

/-!
# Boundary macros

Each of these macros stands for one end of the time range. They need a range:
there is no bound that would stand for its absence.
-/
namespace QueryMacros.Builtin

open Macro

variable {σ : Type}

/-- The expansion to one end of the range, as the given bound. -/
def boundary (bound : Instant → Text) (side : TimeRange → Instant) (invocation : Invocation)
    (context : Context σ) : Expansion σ Text := do
  let _ ← ofExcept (invocation.requireArguments 0)
  match context.timeRange with
  | some range => return bound (side range)
  | none => throw (.missingTimeRange invocation.name)

/-- `$__fromTime()`: the start of the range in seconds. -/
def fromTime : Applier σ where
  name := "$__fromTime"
  named := by decide
  expand _ := boundary Sql.exactSecondBound TimeRange.start

/-- `$__toTime()`: the end of the range in seconds. -/
def toTime : Applier σ where
  name := "$__toTime"
  named := by decide
  expand _ := boundary Sql.exactSecondBound TimeRange.stop

/-- `$__fromTime_ms()`: the start of the range in milliseconds. -/
def fromTimeMillis : Applier σ where
  name := "$__fromTime_ms"
  named := by decide
  expand _ := boundary Sql.millisecondBound TimeRange.start

/-- `$__toTime_ms()`: the end of the range in milliseconds. -/
def toTimeMillis : Applier σ where
  name := "$__toTime_ms"
  named := by decide
  expand _ := boundary Sql.millisecondBound TimeRange.stop

end QueryMacros.Builtin
