import QueryMacros.Calendar.Instant
import QueryMacros.Text.Character
import QueryMacros.Text.Reading

/-!
# Instants in a free form

A request describes instants more loosely than the standard form does. Numbers
may have fewer digits, years a sign and any number of digits, blanks may stand
around every part, and the distance from universal time may be the word `UTC`
or be written with blanks or without a colon. Whatever `Instant.write` produces
is read back as the same instant.
-/
namespace QueryMacros.Calendar

open Text (Reading)
open Text.Reading (character)

namespace Lenient

/-- Passes over blanks. -/
def blanks : Reading Unit := modify Text.trimStart

/-- Takes one digit at least and as many as `width` at most. -/
def digits (width : Nat) : Reading Nat := do
  let text ← get
  let run := (text.take width).takeWhile Numeral.isDigit
  if run.isEmpty then failure
  set (text.drop run.length)
  return Numeral.value run

/-- Takes a number of one or two digits, with blanks in front. -/
def field : Reading Nat := do
  blanks
  digits 2

/-- Takes a year: up to four digits, or a sign and any number of digits. -/
def year : Reading Int := do
  blanks
  match ← get with
  | '-' :: rest =>
      set rest
      return -((← digits rest.length) : Int)
  | '+' :: rest =>
      set rest
      return ((← digits rest.length) : Int)
  | _ => return ((← digits 4) : Int)

/-- Takes a mark between two parts, with blanks in front. -/
def mark (c : Char) : Reading Unit := do
  blanks
  let _ ← character (· == c)

/-- Takes a fraction of a second if a point announces one. Digits behind the
ninth are passed over. -/
def fraction : Reading Nat := do
  match ← get with
  | '.' :: rest =>
      let run := rest.takeWhile Numeral.isDigit
      if run.isEmpty then failure
      set (rest.drop run.length)
      return Numeral.value ((run ++ List.replicate 9 '0').take 9)
  | _ => return 0

/-- Takes exactly two digits. -/
def twoDigits : Reading Nat := do
  let tens ← character Numeral.isDigit
  let ones ← character Numeral.isDigit
  return Numeral.value [tens, ones]

/-- Takes the distance from universal time in seconds. Between hours and minutes
any number of colons and blanks may stand. -/
def offset : Reading Int := do
  let text ← get
  if Text.equalsIgnoringAsciiCase (text.take 3) "UTC" then
    set (text.drop 3)
    return 0
  match ← character fun _ => true with
  | 'Z' | 'z' => return 0
  | sign =>
      if sign != '+' && sign != '-' && sign != '\u2212' then failure
      let hours ← twoDigits
      modify fun rest => rest.dropWhile fun c => c == ':' || Text.isBlank c
      let minutes ← twoDigits
      if 60 ≤ minutes then failure
      let seconds : Int := (hours * 3600 + minutes * 60 : Nat)
      if secondsPerDay ≤ seconds then failure
      return if sign == '+' then seconds else -seconds

/-- Reads an instant. -/
def instant : Reading Instant := do
  let year ← year
  mark '-'
  let month ← field
  mark '-'
  let day ← field
  let _ ← character fun c => c == 'T' || c == 't' || c == ' '
  let hour ← field
  mark ':'
  let minute ← field
  mark ':'
  let second ← field
  let nano ← fraction
  blanks
  let offset ← offset
  blanks
  if !(← get).isEmpty then failure
  (Instant.ofLocal? ⟨year, month, day⟩ hour minute second nano offset : Option Instant)

end Lenient

/-- Reads an instant in a free form. -/
def readLenient? (text : Text) : Option Instant := Lenient.instant.run' text

end QueryMacros.Calendar
