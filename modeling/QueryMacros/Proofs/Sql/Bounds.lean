import Mathlib.Data.Rat.Floor
import QueryMacros.Proofs.Builtin.FormShape
import QueryMacros.Proofs.Calendar.RoundTrip
import QueryMacros.Proofs.Sql.QuotedArguments
import QueryMacros.Sql.TimeBound

/-!
# What bounds of time keep

A bound is a call of a function whose argument stands for a place on a scale: a number of
seconds or milliseconds, or the date of a day, with which days are compared as numbers. A
condition between two bounds keeps the rows whose column lies between their places. So a
condition is given a meaning by reading its text, and what was written is read back: a
number is, and so is the date of a day, with its sign where the year has one.
-/
namespace QueryMacros

/-! ## Numbers and dates -/

namespace Numeral

section Signs

variable {digits : Text} {value : Nat}

/-- A run of digits has no sign. -/
theorem readInt?_unsigned (all : ∀ c ∈ digits, isDigit c = true)
    (read : read? digits = some value) : readInt? digits = some (value : Int) := by
  cases digits with
  | nil => cases read
  | cons c digits =>
    have digit := all c List.mem_cons_self
    have minus : c ≠ '-' := by
      rintro rfl
      cases digit
    have plus : c ≠ '+' := by
      rintro rfl
      cases digit
    simp [readInt?, readUnsigned?, minus, plus, read]

/-- A minus sign turns the number that is read around. -/
theorem readInt?_minus (read : read? digits = some value) :
    readInt? ('-' :: digits) = some (-(value : Int)) := by
  simp [readInt?, read]

/-- A plus sign changes nothing. -/
theorem readInt?_plus (read : read? digits = some value) :
    readInt? ('+' :: digits) = some (value : Int) := by
  simp [readInt?, readUnsigned?, read]

end Signs

/-- A padded number is read back without its zeros. -/
theorem read?_writePadded (width value : Nat) : read? (writePadded width value) = some value := by
  have digits : (writePadded width value).all isDigit = true :=
    List.all_eq_true.2 fun _ member => isDigit_of_mem_writePadded member
  simp [read?, digits, writePadded_ne_nil, value_writePadded]

/-- Reading a written integer gives it back. -/
theorem readInt?_writeInt (value : Int) : readInt? (writeInt value) = some value := by
  unfold writeInt
  by_cases negative : value < 0
  · rw [if_pos negative, readInt?_minus (read?_write _)]
    exact congrArg some (by omega)
  · rw [if_neg negative, readInt?_unsigned (fun _ => isDigit_of_mem_write) (read?_write _)]
    exact congrArg some (by omega)

end Numeral

namespace Date

/-- Reads a date: a year that may have a sign, a month and a day, joined by hyphens. -/
def read? (text : Text) : Option Date := do
  let (front, day) ← Text.splitLast? '-' text
  let (year, month) ← Text.splitLast? '-' front
  return ⟨← Numeral.readInt? year, ← Numeral.read? month, ← Numeral.read? day⟩

/-- A year is read with its sign, or without one if it has four digits. -/
theorem readInt?_writeYear (year : Int) : Numeral.readInt? (writeYear year) = some year := by
  have read (value : Nat) := Numeral.read?_writePadded 4 value
  unfold writeYear
  by_cases common : 0 ≤ year ∧ year ≤ 9999
  · rw [if_pos common,
      Numeral.readInt?_unsigned (fun _ => Numeral.isDigit_of_mem_writePadded) (read _)]
    exact congrArg some (by omega)
  · rw [if_neg common]
    by_cases negative : year < 0
    · rw [if_pos negative, Numeral.readInt?_minus (read _)]
      exact congrArg some (by omega)
    · rw [if_neg negative, Numeral.readInt?_plus (read _)]
      exact congrArg some (by omega)

/-- Reading a written date gives it back. -/
theorem read?_write (date : Date) : read? date.write = some date := by
  have noHyphen (value : Nat) : '-' ∉ Numeral.writePadded 2 value := fun member =>
    absurd (Numeral.isDigit_of_mem_writePadded member) (by decide)
  have whole : Text.splitLast? '-' date.write =
      some (writeYear date.year ++ '-' :: Numeral.writePadded 2 date.month,
        Numeral.writePadded 2 date.day) :=
    Text.splitLast?_eq_some_iff.2 ⟨rfl, noHyphen date.day⟩
  have front : Text.splitLast? '-'
      (writeYear date.year ++ '-' :: Numeral.writePadded 2 date.month) =
      some (writeYear date.year, Numeral.writePadded 2 date.month) :=
    Text.splitLast?_eq_some_iff.2 ⟨rfl, noHyphen date.month⟩
  simp only [read?, whole, front, readInt?_writeYear, Numeral.read?_writePadded,
    Option.bind_eq_bind, Option.bind_some, Option.pure_def]

end Date

namespace Sql

/-! ## Bounds -/

/-- A scale of time: the function that makes a bound, and the place that its argument
stands for. -/
structure Scale where
  function : Text
  read? : Text → Option Int

namespace Scale

/-- Seconds since the start of 1970. -/
def seconds : Scale := ⟨"toDateTime", Numeral.readInt?⟩

/-- Milliseconds since the start of 1970. -/
def milliseconds : Scale := ⟨"fromUnixTimestamp64Milli", Numeral.readInt?⟩

/-- Days since the first of January 1970, given by their dates. -/
def days : Scale where
  function := "toDate"
  read? literal := ((literalValue? literal).bind Date.read?).map Date.dayNumber

/-- The place of a bound. -/
def place? (scale : Scale) (bound : Text) : Option Int := do
  let inner ← Text.behind? (scale.function ++ ['(']) bound
  if inner.getLast? = some ')' then scale.read? inner.dropLast else none

/-- The argument of a call is read as its place. -/
theorem place?_call (scale : Scale) (argument : Text) :
    scale.place? (scale.function ++ ['('] ++ argument ++ [')']) = scale.read? argument := by
  have inner : Text.behind? (scale.function ++ ['('])
      (scale.function ++ ['('] ++ argument ++ [')']) = some (argument ++ [')']) :=
    Text.behind?_eq_some_iff.2 (List.append_assoc _ _ _)
  rw [place?, inner, Option.bind_eq_bind, Option.bind_some, List.getLast?_concat, if_pos rfl,
    List.dropLast_concat]

/-- The bounds that instants are written as have the given places, and no blank. -/
structure Measures (scale : Scale) (bound : Instant → Text) (place : Instant → Int) : Prop where
  read : ∀ instant, scale.place? (bound instant) = some (place instant)
  noBlank : ∀ instant, ' ' ∉ bound instant

/-- A call with a number in it has no blank. -/
theorem noBlank_call (scale : Scale) {argument : Text} (outside : ' ' ∉ scale.function)
    (inside : ' ' ∉ argument) : ' ' ∉ scale.function ++ ['('] ++ argument ++ [')'] := by
  simp [outside, inside]

/-- A number has no blank in it. -/
theorem noBlank_of_isNumeric {text : Text} (numeric : Text.IsNumeric text) : ' ' ∉ text :=
  fun member => Text.ne_of_isNumberMark (numeric.2 ' ' member) ' ' (by decide) rfl

/-- Bounds in seconds have their places on the scale of seconds. -/
theorem measures_seconds : seconds.Measures secondBound Instant.toSeconds where
  read instant := (place?_call seconds _).trans (Numeral.readInt?_writeInt instant.toSeconds)
  noBlank instant :=
    have inside := noBlank_of_isNumeric (Numeral.isNumeric_writeInt instant.toSeconds)
    noBlank_call seconds (by decide) inside

/-- Bounds in milliseconds have their places on the scale of milliseconds. -/
theorem measures_milliseconds : milliseconds.Measures millisecondBound Instant.toMillis where
  read instant := (place?_call milliseconds _).trans (Numeral.readInt?_writeInt instant.toMillis)
  noBlank instant :=
    have inside := noBlank_of_isNumeric (Numeral.isNumeric_writeInt instant.toMillis)
    noBlank_call milliseconds (by decide) inside

/-- The date of an instant stands for its day. -/
theorem measures_days : days.Measures dateBound Instant.day where
  read instant := by
    have argument : days.read? (quote instant.date.write) = some instant.day := by
      have counted : instant.date.dayNumber = instant.day := Date.dayNumber_ofDayNumber instant.day
      simp only [days, literalValue?_quote, Option.bind_some, Date.read?_write, Option.map_some,
        counted]
    exact (place?_call days _).trans argument
  noBlank instant := by
    have numeric := Date.isNumeric_write instant.date
    have inside : ' ' ∉ quote instant.date.write := by
      rw [quote_of_isNumeric numeric]
      simp [noBlank_of_isNumeric numeric]
    exact noBlank_call days (by decide) inside

end Scale

/-! ## Conditions -/

/-- A column as a condition names it, and where the value of a row lies on its scale. -/
structure Cell where
  column : Text
  scale : Scale
  value : ℚ

/-- What stands behind the range of a column at the front of a condition, if the value lies
between its bounds. -/
def Cell.within? (cell : Cell) (condition : Text) : Option Text := do
  let fromLow ← Text.behind? (cell.column ++ " >= ") condition
  let low ← cell.scale.place? (fromLow.takeWhile (· != ' '))
  let fromHigh ← Text.behind? (" AND " ++ cell.column ++ " <= ") (fromLow.dropWhile (· != ' '))
  let high ← cell.scale.place? (fromHigh.takeWhile (· != ' '))
  if low ≤ cell.value ∧ cell.value ≤ high then some (fromHigh.dropWhile (· != ' ')) else none

/-- Whether a condition keeps a row: it has a range for each of the cells, in order and all
of them to hold, and each value lies in its range. -/
def keeps : List Cell → Text → Bool
  | [], _ => false
  | [cell], condition => cell.within? condition = some []
  | cell :: cells, condition =>
      match (cell.within? condition).bind (Text.behind? " AND ") with
      | some rest => keeps cells rest
      | none => false

section Between

variable {bound : Instant → Text} {place : Instant → Int} {cell : Cell}

/-- The range that a condition begins with is read bound by bound, up to the end or to the
blank behind it. -/
theorem within?_between (measures : cell.scale.Measures bound place) (range : TimeRange)
    {rest : Text} (stops : rest.head?.any (· != ' ') = false) :
    cell.within? (between bound cell.column range ++ rest) =
      if place range.start ≤ cell.value ∧ cell.value ≤ place range.stop then some rest
      else none := by
  have inside (instant : Instant) : ∀ c ∈ bound instant, (c != ' ') = true := fun c member =>
    bne_iff_ne.2 fun same => measures.noBlank instant (same ▸ member)
  have low : Text.behind? (cell.column ++ " >= ") (between bound cell.column range ++ rest) =
      some (bound range.start ++
        (" AND " ++ cell.column ++ " <= " ++ (bound range.stop ++ rest))) :=
    Text.behind?_eq_some_iff.2 (by simp only [between, List.append_assoc])
  have middle : (" AND " ++ cell.column ++ " <= " ++ (bound range.stop ++ rest) : Text).head?.any
      (· != ' ') = false := rfl
  have high : Text.behind? (" AND " ++ cell.column ++ " <= ")
      (" AND " ++ cell.column ++ " <= " ++ (bound range.stop ++ rest)) =
        some (bound range.stop ++ rest) :=
    Text.behind?_eq_some_iff.2 rfl
  simp only [Cell.within?, low, Option.bind_eq_bind, Option.bind_some,
    takeWhile_append_of_stops (inside _) middle, dropWhile_append_of_stops (inside _) middle, high,
    takeWhile_append_of_stops (inside _) stops, dropWhile_append_of_stops (inside _) stops,
    measures.read]

/-- A condition between two bounds keeps what lies between their places. -/
theorem keeps_between (measures : cell.scale.Measures bound place) (range : TimeRange) :
    keeps [cell] (between bound cell.column range) = true ↔
      place range.start ≤ cell.value ∧ cell.value ≤ place range.stop := by
  have nothing : ([] : Text).head?.any (· != ' ') = false := rfl
  have read := within?_between measures range nothing
  rw [List.append_nil] at read
  simp [keeps, read]

/-- A condition that begins with a range keeps what lies in it and is kept by the rest. -/
theorem keeps_between_and (measures : cell.scale.Measures bound place) (range : TimeRange)
    {cells : List Cell} (more : cells ≠ []) (rest : Text) :
    keeps (cell :: cells) (between bound cell.column range ++ " AND " ++ rest) = true ↔
      (place range.start ≤ cell.value ∧ cell.value ≤ place range.stop) ∧
        keeps cells rest = true := by
  have separated : Text.behind? " AND " (" AND " ++ rest) = some rest :=
    Text.behind?_eq_some_iff.2 rfl
  have stops : (" AND " ++ rest : Text).head?.any (· != ' ') = false := rfl
  obtain ⟨next, others, rfl⟩ := List.exists_cons_of_ne_nil more
  rw [List.append_assoc, keeps, within?_between measures range stops]
  · by_cases inside : place range.start ≤ cell.value ∧ cell.value ≤ place range.stop
    · rw [if_pos inside, Option.bind_some, separated]
      simp only [inside, and_self, true_and]
    · rw [if_neg inside, Option.bind_none]
      simp [inside]
  · exact more

end Between

end Sql

end QueryMacros
