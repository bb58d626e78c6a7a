import QueryMacros.Macro.Applier

/-!
# Interval macros

The interval of a query as a number of seconds, and the rounding of a column down
to a multiple of the interval, in seconds or in milliseconds. A context never
gives an interval below one unit, so no bucket is empty.
-/
namespace QueryMacros.Builtin

open Macro

variable {σ : Type}

/-- `$__interval_s()`: the interval in seconds. -/
def intervalSeconds : Applier σ where
  name := "$__interval_s"
  named := by decide
  expand _ invocation context := do
    let _ ← ofExcept (invocation.requireArguments 0)
    return context.intervalSeconds.writeNumber

/-- `$__timeInterval(column)`: the start of the interval that a time falls into. -/
def timeInterval : Applier σ where
  name := "$__timeInterval"
  named := by decide
  expand _ invocation context := do
    match ← ofExcept (invocation.requireArguments 1) with
    | column :: _ =>
        return "toStartOfInterval(toDateTime(" ++ column ++ "), INTERVAL " ++
          context.intervalSeconds.writeNumber ++ " second)"
    | [] => throw (.arity invocation.name 1)

/-- `$__timeInterval_ms(column)`: the same to the millisecond. -/
def timeIntervalMillis : Applier σ where
  name := "$__timeInterval_ms"
  named := by decide
  expand _ invocation context := do
    match ← ofExcept (invocation.requireArguments 1) with
    | column :: _ =>
        return "toStartOfInterval(toDateTime64(" ++ column ++ ", 3), INTERVAL " ++
          Numeral.write context.intervalMilliseconds ++ " millisecond)"
    | [] => throw (.arity invocation.name 1)

end QueryMacros.Builtin
