import QueryMacros.Calendar.Instant
import QueryMacros.Number.Shortest

/-!
# Time ranges

The range of time that a dashboard shows, from one instant to another. The two
are not compared; a range may run backward.
-/
namespace QueryMacros

/-- A range of time. -/
structure TimeRange where
  start : Instant
  stop : Instant
deriving DecidableEq

namespace TimeRange

/-- The range between two numbers of milliseconds since the start of 1970. -/
def ofMillis? (start stop : Int) : Option TimeRange := do
  return ⟨← Instant.ofMillis? start, ← Instant.ofMillis? stop⟩

end TimeRange

/-- The seconds since the start of 1970 with their milliseconds as a fraction, in
floating point. -/
def Instant.fractionalSeconds (instant : Instant) : Binary64 :=
  (Binary64.ofInt instant.toMillis).divide 1000

end QueryMacros
