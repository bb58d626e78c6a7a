import QueryMacros.Calendar.Instant
import QueryMacros.Text.Character

/-!
# Instants in their standard form

The form is `yyyy-mm-ddThh:mm:ss`, a fraction of the second if there is one, and
the distance from universal time as `Z` or `+hh:mm`. Letters may be of either
case, a blank space may stand for the `T`, and of a fraction the first nine
digits count. A reading fails at the first fault, in the order of the text: the
date is checked when its day has been read, and the time of day before the
distance is looked at.
-/
namespace QueryMacros.Calendar

/-- What is wrong with the text of an instant. -/
inductive Fault where
  | tooShort
  | invalid
  | outOfRange
  | trailing
deriving DecidableEq, Repr

/-- The wording of a fault. -/
def Fault.message : Fault → Text
  | .tooShort => "premature end of input"
  | .invalid => "input contains invalid characters"
  | .outOfRange => "input is out of range"
  | .trailing => "trailing input"

/-- A reading takes characters from the front of a text, or fails. -/
abbrev Reading := StateT Text (Except Fault)

namespace Reading

/-- Takes the next character, which has to pass a test. -/
def character (test : Char → Bool) : Reading Char := fun
  | [] => .error .tooShort
  | c :: rest => if test c then .ok (c, rest) else .error .invalid

/-- Takes a digit. -/
def digit : Reading Nat := do return Numeral.digitValue (← character Numeral.isDigit)

/-- Takes a number of two digits. -/
def twoDigits : Reading Nat := do
  let tens ← digit
  return 10 * tens + (← digit)

/-- Takes the digits of a fraction of a second, at least one, and gives the
nanoseconds. Digits behind the ninth are passed over. -/
def fraction : Reading Nat := do
  let first ← character Numeral.isDigit
  let text ← get
  let digits := first :: text.takeWhile Numeral.isDigit
  set (text.dropWhile Numeral.isDigit)
  return Numeral.value ((digits ++ List.replicate 9 '0').take 9)

/-- Takes two digits of a distance from universal time. Fewer than two bytes are
too short, whatever they are. -/
def offsetDigits : Reading (Nat × Nat) := do
  if Text.utf8Length (← get) < 2 then throw .tooShort
  let tens ← digit
  return (tens, ← digit)

/-- Takes a distance from universal time, in seconds. Besides a hyphen the minus
sign proper is read. -/
def offset : Reading Int := do
  match ← character fun _ => true with
  | 'Z' | 'z' => return 0
  | sign =>
      if sign != '+' && sign != '-' && sign != '\u2212' then throw .invalid
      let (tens, ones) ← offsetDigits
      let _ ← character (· == ':')
      let (minuteTens, minuteOnes) ← offsetDigits
      if 6 ≤ minuteTens then throw .outOfRange
      let seconds : Int := ((10 * tens + ones) * 3600 + (10 * minuteTens + minuteOnes) * 60 : Nat)
      return if sign == '+' then seconds else -seconds

/-- Gives a value that is there, and fails as out of range otherwise. -/
def inRange {α : Type} : Option α → Reading α
  | some value => pure value
  | none => throw .outOfRange

/-- Reads a whole text as an instant. -/
def instant : Reading Instant := do
  if Text.utf8Length (← get) < 19 then throw .tooShort
  let century ← twoDigits
  let year := 100 * century + (← twoDigits)
  let _ ← character (· == '-')
  let month ← twoDigits
  let _ ← character (· == '-')
  let day ← twoDigits
  let date : Date := ⟨year, month, day⟩
  if !date.isValid then throw .outOfRange
  let _ ← character fun c => c == 'T' || c == 't' || c == ' '
  let hour ← twoDigits
  let _ ← character (· == ':')
  let minute ← twoDigits
  let _ ← character (· == ':')
  let second ← twoDigits
  let nano ← match ← get with
    | '.' :: rest => do
        set rest
        fraction
    | _ => pure 0
  let _ ← inRange (Instant.ofLocal? date hour minute second nano 0)
  let offset ← offset
  if !(← get).isEmpty then throw .trailing
  if secondsPerDay ≤ offset.natAbs then throw .outOfRange
  inRange (Instant.ofLocal? date hour minute second nano offset)

end Reading

/-- Reads an instant in its standard form. -/
def readStrict (text : Text) : Except Fault Instant := Reading.instant.run' text

end QueryMacros.Calendar
