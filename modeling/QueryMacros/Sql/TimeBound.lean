import QueryMacros.Context.TimeRange
import QueryMacros.Sql.Literal

/-!
# Bounds of time

An instant becomes a bound that a column can be compared with: to the second, to
the millisecond, or to the day. Seconds and days are rounded toward the past, at
the start of a range and at its end alike. Only the bound to the exact second
keeps the milliseconds, as a fraction.
-/
namespace QueryMacros.Sql

/-- The second of an instant. -/
def secondBound (instant : Instant) : Text :=
  "toDateTime(" ++ Numeral.writeInt instant.toSeconds ++ ")"

/-- An instant in seconds with a fraction. -/
def exactSecondBound (instant : Instant) : Text :=
  "toDateTime(" ++ instant.fractionalSeconds.writeNumber ++ ")"

/-- The millisecond of an instant. -/
def millisecondBound (instant : Instant) : Text :=
  "fromUnixTimestamp64Milli(" ++ Numeral.writeInt instant.toMillis ++ ")"

/-- The day of an instant. -/
def dateBound (instant : Instant) : Text := "toDate(" ++ quote instant.date.write ++ ")"

/-- The condition that a column lies between the bounds of a range, both
included. -/
def between (bound : Instant → Text) (column : Text) (range : TimeRange) : Text :=
  column ++ " >= " ++ bound range.start ++ " AND " ++ column ++ " <= " ++ bound range.stop

/-- The condition that a column lies in a range. Without a range it always
holds. -/
def within (bound : Instant → Text) (column : Text) (range : Option TimeRange) : Text :=
  (range.map (between bound column)).getD always

end QueryMacros.Sql
