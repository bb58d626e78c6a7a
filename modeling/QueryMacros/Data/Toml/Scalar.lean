import QueryMacros.Calendar.Date
import QueryMacros.Data.Basic
import QueryMacros.Data.Toml.Gap
import QueryMacros.Number.Binary64
import QueryMacros.Number.Radix

/-!
# Unquoted values of TOML

A value without quotes is one of two words, a number, or a moment of time. The
digits of a number may be grouped by underscores, each between two digits. The
range of an integer is that of 128 bits, with or without a sign. A number with a
fraction or an exponent is in range if it is finite in binary floating point, or
written as infinite. A number that is out of range is well-formed, and no matter
as long as nobody reads it.

Moments are checked for their form and their ranges only. Nothing that is read
from TOML has a moment in it, so as data a moment is a record without fields.
-/
namespace QueryMacros.Toml

open Text (Reading)
open Text.Reading (character mark run)

/-- The digits of a numeral without the underscores that group them. -/
def digits? (isDigit : Char → Bool) (written : Text) : Option Text :=
  let groups := Text.splitOn '_' written
  if groups.all fun group => !group.isEmpty && group.all isDigit then some groups.flatten else none

/-- The digits of a decimal numeral, which has no leading zero. -/
def decimal? (written : Text) : Option Text := do
  let digits ← digits? Numeral.isDigit written
  if 1 < digits.length ∧ digits.head? = some '0' then none else some digits

/-- A number without its sign, and whether the sign is a minus. -/
def splitSign : Text → Bool × Text
  | '-' :: rest => (true, rest)
  | '+' :: rest => (false, rest)
  | rest => (false, rest)

/-- The integer that a word stands for. -/
def integer? (word : Text) : Option Int :=
  match word with
  | '0' :: 'x' :: written => based 16 written
  | '0' :: 'o' :: written => based 8 written
  | '0' :: 'b' :: written => based 2 written
  | _ =>
      let (negative, written) := splitSign word
      (decimal? written).map fun digits =>
        if negative then -(Numeral.value digits : Int) else Numeral.value digits
where
  based (base : Nat) (written : Text) : Option Int := do
    let digits ← digits? (Radix.isDigit base) written
    return ((← Radix.value? base digits) : Nat)

/-- Whether an integer fits into 128 bits, with or without a sign. -/
def isInRange (value : Int) : Bool :=
  -(Nat.pow 2 127 : Nat) ≤ value && value < (Nat.pow 2 128 : Nat)

/-- Whether a decimal number, given by its digits and its power of ten, is beyond
the finite numbers of binary floating point. The largest of those has 309 digits
in front of the point. -/
def overflows (digits : Text) (power : Int) : Bool :=
  let significant := digits.dropWhile (· == '0')
  let places := significant.length + power
  if significant.isEmpty || places < 309 then false
  else if 309 < places then true
  else
    Binary64.nearest false (Numeral.value significant * Nat.pow 10 power.toNat)
      (Nat.pow 10 (-power).toNat) == .infinite false

/-- The digits and the power of ten of a number with a fraction or an exponent,
written without a sign. -/
def fraction? (written : Text) : Option (Text × Int) := do
  let isExponentMark := fun c => c == 'e' || c == 'E'
  let mantissa := written.takeWhile fun c => !isExponentMark c
  let exponent := (written.dropWhile fun c => !isExponentMark c).drop 1
  let hasExponent := written.any isExponentMark
  let fraction := Text.splitFirst? '.' mantissa
  if !hasExponent && fraction.isNone then none
  let whole ← decimal? ((fraction.map Prod.fst).getD mantissa)
  let places ← match fraction with
    | some (_, places) => digits? Numeral.isDigit places
    | none => some []
  let (negative, written) := splitSign exponent
  let power ← if hasExponent then digits? Numeral.isDigit written else some []
  let power : Int := Numeral.value power
  return (whole ++ places, (if negative then -power else power) - places.length)

/-- The number that a word stands for. -/
def number? (word : Text) : Option Data :=
  match integer? word with
  | some value => some (if isInRange value then .whole value else .outOfRange)
  | none =>
      let (_, written) := splitSign word
      if written = "inf" ∨ written = "nan" then some (.number word)
      else (fraction? written).map fun (digits, power) =>
        if overflows digits power then .outOfRange else .number word

/-- Takes a number of exactly so many digits. -/
def fixed (length : Nat) : Reading Nat := do
  let text ← get
  match Numeral.read? (text.take length) with
  | some value =>
      if text.length < length then failure
      set (text.drop length)
      return value
  | none => failure

/-- Takes a date. -/
def date : Reading Unit := do
  let year ← fixed 4
  mark '-'
  let month ← fixed 2
  mark '-'
  let day ← fixed 2
  if !Date.isValid ⟨year, month, day⟩ then failure

/-- Takes a fraction of a second, if a point announces one. -/
def secondFraction : Reading Unit := do
  if (← Reading.ahead) = some '.' then
    mark '.'
    if (← run Numeral.isDigit).isEmpty then failure

/-- Takes a time of day. The seconds may be left out. -/
def clock : Reading Unit := do
  let hour ← fixed 2
  mark ':'
  let minute ← fixed 2
  if 24 ≤ hour ∨ 60 ≤ minute then failure
  if (← Reading.ahead) = some ':' then
    mark ':'
    if 60 < (← fixed 2) then failure
    secondFraction

/-- Takes a distance from universal time, if there is one. -/
def zone : Reading Unit := do
  match ← get with
  | [] => pure ()
  | 'Z' :: rest => set rest
  | 'z' :: rest => set rest
  | _ =>
      let _ ← character fun c => c == '+' || c == '-'
      let hours ← fixed 2
      mark ':'
      let minutes ← fixed 2
      if 24 ≤ hours ∨ 60 ≤ minutes then failure

/-- Takes a date, a time of day, or both with a letter or a space between them. -/
def moment : Reading Unit :=
  clock <|> do
    date
    if !(← get).isEmpty then
      let _ ← character fun c => c == 'T' || c == 't' || c == ' '
      clock
      zone

/-- The value that a word stands for. -/
def scalar? (word : Text) : Option Data :=
  if word = "true" then some (.boolean true)
  else if word = "false" then some (.boolean false)
  else number? word <|> (moment.whole? word).map fun _ => .record []

/-- A character of an unquoted value. -/
def isScalarCharacter (c : Char) : Bool :=
  c.isAlphanum || c == '_' || c == '-' || c == '+' || c == '.' || c == ':'

/-- Takes an unquoted value. A time of day belongs to the date that stands one
space in front of it. -/
def scalar : Reading Data := do
  let word ← run isScalarCharacter
  let further ←
    match date.whole? word, ← get with
    | some _, ' ' :: c :: _ =>
        if c.isDigit then do
          mark ' '
          pure (' ' :: (← run isScalarCharacter))
        else pure []
    | _, _ => pure []
  (scalar? (word ++ further) : Option Data)

end QueryMacros.Toml
