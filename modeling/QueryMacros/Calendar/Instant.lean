import QueryMacros.Calendar.Date

/-!
# Instants

An instant is a point in time of universal time, to the nanosecond: a day, a
second of the day, and the nanoseconds passed since that second began. A leap
second has no number of its own. It is the continuation of the last second of a
minute, so the nanoseconds of such a second can reach two thousand million.

Seconds and milliseconds since 1970 count every day as 86400 seconds. Both are
rounded toward the past, so an instant before 1970 is never moved forward.
-/
namespace QueryMacros

/-- The seconds of a day. -/
def secondsPerDay : Int := 86400

/-- The nanoseconds of a second. -/
def nanosPerSecond : Nat := 1000000000

/-- The nanoseconds of a millisecond. -/
def nanosPerMilli : Nat := 1000000

/-- A point in time, in the range of the dates. -/
structure Instant where
  day : Int
  second : Nat
  nano : Nat
  day_ge : Date.firstDay ≤ day
  day_le : day ≤ Date.lastDay
  second_lt : second < 86400
  nano_lt : nano < if second % 60 = 59 then 2 * nanosPerSecond else nanosPerSecond
deriving DecidableEq

namespace Instant

/-- The instant of a day, a second of the day and a nanosecond, if they are in
range. -/
def of? (day : Int) (second nano : Nat) : Option Instant :=
  if inRange : Date.firstDay ≤ day ∧ day ≤ Date.lastDay ∧ second < 86400 ∧
      nano < if second % 60 = 59 then 2 * nanosPerSecond else nanosPerSecond then
    some ⟨day, second, nano, inRange.1, inRange.2.1, inRange.2.2.1, inRange.2.2.2⟩
  else none

/-- The instant a number of milliseconds after the start of 1970. -/
def ofMillis? (millis : Int) : Option Instant :=
  of? (millis / (1000 * secondsPerDay)) (millis / 1000 % secondsPerDay).toNat
    ((millis % 1000).toNat * nanosPerMilli)

/-- The whole seconds since the start of 1970. -/
def toSeconds (instant : Instant) : Int := instant.day * secondsPerDay + instant.second

/-- The whole milliseconds since the start of 1970. Those of a leap second are
counted on top of the second before it. -/
def toMillis (instant : Instant) : Int :=
  instant.toSeconds * 1000 + (instant.nano / nanosPerMilli : Nat)

/-- The date of an instant. -/
def date (instant : Instant) : Date := Date.ofDayNumber instant.day

/-- A fraction of a second with three, six or nine places, the least number that
shows it in full. A whole second has none. -/
def writeFraction (nano : Nat) : Text :=
  if nano = 0 then []
  else if nano % nanosPerMilli = 0 then '.' :: Numeral.writePadded 3 (nano / nanosPerMilli)
  else if nano % 1000 = 0 then '.' :: Numeral.writePadded 6 (nano / 1000)
  else '.' :: Numeral.writePadded 9 nano

/-- An instant as date and time of universal time. A leap second is the sixtieth
second of its minute. -/
def write (instant : Instant) : Text :=
  let leap := nanosPerSecond ≤ instant.nano
  let second := instant.second % 60 + (if leap then 1 else 0)
  let nano := instant.nano - (if leap then nanosPerSecond else 0)
  instant.date.write ++ 'T' :: Numeral.writePadded 2 (instant.second / 3600) ++
    ':' :: Numeral.writePadded 2 (instant.second / 60 % 60) ++
    ':' :: Numeral.writePadded 2 second ++ writeFraction nano ++ ['Z']

/-- A local date and time with its distance from universal time in seconds. A
sixtieth second is a leap second. The date has to be valid by itself, and so
does the instant that is meant. -/
def ofLocal? (date : Date) (hour minute second nano : Nat) (offset : Int) : Option Instant :=
  let leap := second = 60
  let secondOfMinute := if leap then 59 else second
  let nano := nano + (if leap then nanosPerSecond else 0)
  if date.isValid ∧ hour < 24 ∧ minute < 60 ∧ secondOfMinute < 60 then
    let total : Int := date.dayNumber * secondsPerDay +
      (hour * 3600 + minute * 60 + secondOfMinute : Nat) - offset
    of? (total / secondsPerDay) (total % secondsPerDay).toNat nano
  else none

example : (ofMillis? 8210266876799999).isSome ∧ (ofMillis? 8210266876800000).isNone ∧
    (ofMillis? (-8334601228800000)).isSome ∧ (ofMillis? (-8334601228800001)).isNone := by decide

end Instant

end QueryMacros
