import Mathlib.Algebra.Group.Nat.Defs
import Mathlib.Data.List.TakeWhile
import QueryMacros.Calendar.Lenient
import QueryMacros.Proofs.Calendar.Days
import QueryMacros.Proofs.Text.Trim

/-!
# Reading written instants

An instant is written with all of its digits and without blanks, which the free form
allows for. Each part is read up to the mark behind it, and the parts stand for the
instant that was written, also before the year zero, behind the year 9999, and within a
leap second.
-/
namespace QueryMacros

/-! ## Padded numbers -/

namespace Numeral

/-- A number that is small enough is written in a given number of digits. -/
theorem length_write_le {value width : Nat} (small : value < 10 ^ (width + 1)) :
    (write value).length ≤ width + 1 := by
  induction width generalizing value with
  | zero =>
    have single : value < 10 := small
    rw [write, if_pos single]
    exact Nat.le_refl 1
  | succ width inductionHypothesis =>
    rw [write]
    by_cases single : value < 10
    · rw [if_pos single]
      exact Nat.succ_le_succ (Nat.zero_le _)
    · have fewer : value / 10 < 10 ^ (width + 1) := by
        rw [Nat.pow_succ] at small
        exact Nat.div_lt_of_lt_mul (by omega)
      have shorter := inductionHypothesis fewer
      rw [if_neg single, List.length_append]
      exact Nat.succ_le_succ shorter

/-- A number that fits its width fills it. -/
theorem length_writePadded {value width : Nat} (small : value < 10 ^ (width + 1)) :
    (writePadded (width + 1) value).length = width + 1 := by
  have fits := length_write_le small
  rw [writePadded, List.length_append, List.length_replicate]
  omega

/-- Zeros in front of a number do not change what it stands for. -/
theorem value_writePadded (width value : Nat) :
    Numeral.value (writePadded width value) = value := by
  rw [writePadded, value_replicate_append, value_write]

/-- A padded number has a digit. -/
theorem writePadded_ne_nil (width value : Nat) : writePadded width value ≠ [] := by
  simp [writePadded, write_ne_nil]

/-- A padded number has nothing but digits. -/
theorem isDigit_of_mem_writePadded {width value : Nat} {c : Char}
    (member : c ∈ writePadded width value) : isDigit c = true := by
  rcases List.mem_append.1 member with zero | digit
  · rw [(List.mem_replicate.1 zero).2]
    rfl
  · exact isDigit_of_mem_write digit

/-- Zeros behind a run of digits multiply what it stands for. -/
theorem value_append_replicate (digits : Text) (count : Nat) :
    value (digits ++ List.replicate count '0') = value digits * 10 ^ count := by
  induction count with
  | zero => rw [List.replicate_zero, List.append_nil, Nat.pow_zero, Nat.mul_one]
  | succ count inductionHypothesis =>
    have zero : digitValue '0' = 0 := rfl
    rw [List.replicate_succ', ← List.append_assoc, value, valueFrom_append, ← value,
      inductionHypothesis, valueFrom, List.foldl_cons, List.foldl_nil, zero, Nat.pow_succ,
      Nat.add_zero, Nat.mul_comm 10, Nat.mul_assoc]

end Numeral

/-! ## Readings -/

/-- A reading goes on with what the reading before it found, and with the rest. -/
theorem Text.Reading.bind_eq {α β : Type} {first : Reading α} {next : α → Reading β}
    {text rest : Text} {value : α} (found : first text = some (value, rest)) :
    (first >>= next) text = next value rest := by
  change (first text).bind _ = _
  rw [found]
  rfl

/-- Looking at the text leaves it where it is. -/
theorem Text.Reading.get_bind_eq {β : Type} {next : Text → Reading β} (text : Text) :
    ((get : Reading Text) >>= next) text = next text text := rfl

/-- Setting the text drops what it was. -/
theorem Text.Reading.set_bind_eq {β : Type} {next : PUnit → Reading β} (text rest : Text) :
    ((set rest : Reading PUnit) >>= next) text = next ⟨⟩ rest := rfl

namespace Calendar

namespace Lenient

open Numeral (isDigit writePadded)
open Text (Reading)
open Text.Reading (character bind_eq get_bind_eq set_bind_eq)

/-- A text whose first character is no digit, if it has one. -/
def Stops (rest : Text) : Prop := ∀ c ∈ rest.head?, isDigit c = false

/-- A run of digits stops in front of any other character. -/
theorem stops_cons {c : Char} (other : isDigit c = false) (rest : Text) : Stops (c :: rest) := by
  intro d head
  obtain rfl := Option.some.inj head
  exact other

/-- Nothing is passed over in front of a character that is not blank. -/
theorem blanks_cons {c : Char} (solid : Text.isBlank c = false) (rest : Text) :
    blanks (c :: rest) = some ((), c :: rest) := by
  have trimmed : Text.trimStart (c :: rest) = c :: rest := by
    rw [Text.trimStart, List.dropWhile_cons_of_neg]
    simp [solid]
  change some ((), Text.trimStart (c :: rest)) = _
  rw [trimmed]

/-- A run of digits is taken up to where digits stop, and no further. -/
theorem takeWhile_isDigit_append {run rest : Text} (digits : ∀ c ∈ run, isDigit c = true)
    (stops : Stops rest) : (run ++ rest).takeWhile isDigit = run := by
  refine takeWhile_append_of_stops digits ?_
  cases rest with
  | nil => rfl
  | cons c rest => exact stops c rfl

/-- A padded number is read if all of its digits are looked at, and no others. -/
theorem digits_of_run {width count value : Nat} {rest : Text}
    (run : ((writePadded count value ++ rest).take width).takeWhile isDigit =
      writePadded count value) :
    digits width (writePadded count value ++ rest) = some (value, rest) := by
  have inhabited : (writePadded count value).isEmpty = false := by
    simp [Numeral.writePadded_ne_nil]
  unfold digits
  rw [get_bind_eq]
  simp only [run, inhabited, List.drop_left, Numeral.value_writePadded]
  rfl

/-- A number that fills the width is read, whatever follows. -/
theorem digits_writePadded {width value : Nat} (small : value < 10 ^ (width + 1)) (rest : Text) :
    digits (width + 1) (writePadded (width + 1) value ++ rest) = some (value, rest) := by
  apply digits_of_run
  rw [List.take_left' (Numeral.length_writePadded small), List.takeWhile_eq_self_iff]
  intro c member
  exact Numeral.isDigit_of_mem_writePadded member

/-- Without a width a number is read up to what is no digit. -/
theorem digits_all_writePadded (width value : Nat) {rest : Text} (stops : Stops rest) :
    digits (writePadded width value ++ rest).length (writePadded width value ++ rest) =
      some (value, rest) := by
  apply digits_of_run
  rw [List.take_length, takeWhile_isDigit_append _ stops]
  intro c member
  exact Numeral.isDigit_of_mem_writePadded member

/-- A padded number begins with a digit, which is no blank and no sign. -/
theorem writePadded_eq_cons (width value : Nat) :
    ∃ c text, writePadded width value = c :: text ∧ isDigit c = true := by
  obtain ⟨c, text, same⟩ := List.exists_cons_of_ne_nil (Numeral.writePadded_ne_nil width value)
  refine ⟨c, text, same, ?_⟩
  exact Numeral.isDigit_of_mem_writePadded (same ▸ List.mem_cons_self)

/-- Nothing is passed over in front of a padded number. -/
theorem blanks_writePadded (width value : Nat) (rest : Text) :
    blanks (writePadded width value ++ rest) = some ((), writePadded width value ++ rest) := by
  obtain ⟨c, text, same, digit⟩ := writePadded_eq_cons width value
  rw [same]
  exact blanks_cons (Text.isBlank_of_isDigit digit) _

/-- A character that passes the test is read. -/
theorem character_cons {test : Char → Bool} {c : Char} (passes : test c = true) (rest : Text) :
    character test (c :: rest) = some (c, rest) := by
  simp [character, passes]

/-- A field of two digits is read back as its value. -/
theorem field_writePadded {value : Nat} (small : value < 100) (rest : Text) :
    field (writePadded 2 value ++ rest) = some (value, rest) := by
  unfold field
  rw [bind_eq (blanks_writePadded 2 value rest)]
  exact digits_writePadded small rest

/-- A mark that is not blank is read where it stands. -/
theorem mark_cons {c : Char} (solid : Text.isBlank c = false) (rest : Text) :
    mark c (c :: rest) = some ((), rest) := by
  have taken : character (· == c) (c :: rest) = some (c, rest) :=
    character_cons (by simp) rest
  unfold mark
  rw [bind_eq (blanks_cons solid rest), bind_eq taken]
  rfl

/-- Without a sign a year has four digits. -/
theorem year_unsigned {text rest : Text} {value : Nat} (solid : blanks text = some ((), text))
    (unsigned : ∀ digits, text ≠ '-' :: digits ∧ text ≠ '+' :: digits)
    (read : digits 4 text = some (value, rest)) : year text = some ((value : Int), rest) := by
  unfold year
  rw [bind_eq solid, get_bind_eq]
  split
  · exact absurd rfl (unsigned _).1
  · exact absurd rfl (unsigned _).2
  · rw [bind_eq read]
    rfl

/-- A year is read up to the mark behind it. A year of four digits is read without a sign,
and any other one with it. -/
theorem year_writeYear (value : Int) {rest : Text} (stops : Stops rest) :
    year (Date.writeYear value ++ rest) = some (value, rest) := by
  unfold Date.writeYear
  by_cases common : 0 ≤ value ∧ value ≤ 9999
  · have small : value.toNat < 10 ^ (3 + 1) := by omega
    have same : (value.toNat : Int) = value := by omega
    -- Four digits have no sign in front, so the year is read up to its fourth digit.
    have unsigned (digits : Text) : writePadded 4 value.toNat ++ rest ≠ '-' :: digits ∧
        writePadded 4 value.toNat ++ rest ≠ '+' :: digits := by
      obtain ⟨c, text, front, digit⟩ := writePadded_eq_cons 4 value.toNat
      rw [front]
      constructor
      · intro signed
        rw [(List.cons.inj signed).1] at digit
        cases digit
      · intro signed
        rw [(List.cons.inj signed).1] at digit
        cases digit
    rw [if_pos common, year_unsigned (blanks_writePadded 4 _ rest) unsigned
      (digits_writePadded small rest), same]
  · rw [if_neg common]
    -- A sign lets the year be read as far as its digits go.
    have read := digits_all_writePadded 4 value.natAbs stops
    by_cases negative : value < 0
    · have same : -(value.natAbs : Int) = value := by omega
      rw [if_pos negative, List.cons_append]
      unfold year
      rw [bind_eq (blanks_cons (by decide) _), get_bind_eq]
      change ((set _ : Text.Reading PUnit) >>= _) _ = _
      rw [set_bind_eq, bind_eq read, same]
      rfl
    · have same : (value.natAbs : Int) = value := by omega
      rw [if_neg negative, List.cons_append]
      unfold year
      rw [bind_eq (blanks_cons (by decide) _), get_bind_eq]
      change ((set _ : Text.Reading PUnit) >>= _) _ = _
      rw [set_bind_eq, bind_eq read, same]
      rfl

/-- The places of a fraction are read, and those that were left out stand for zeros. -/
theorem fraction_places {width value : Nat} (small : value < 10 ^ (width + 1))
    (places : width + 1 ≤ 9) {rest : Text} (stops : Stops rest) :
    fraction ('.' :: writePadded (width + 1) value ++ rest) =
      some (value * 10 ^ (9 - (width + 1)), rest) := by
  have length := Numeral.length_writePadded small
  have all (c : Char) (member : c ∈ writePadded (width + 1) value) : isDigit c = true :=
    Numeral.isDigit_of_mem_writePadded member
  have run := takeWhile_isDigit_append all stops
  have inhabited : (writePadded (width + 1) value).isEmpty = false := by
    simp [Numeral.writePadded_ne_nil]
  have filled : (writePadded (width + 1) value ++ List.replicate 9 '0').take 9 =
      writePadded (width + 1) value ++ List.replicate (9 - (width + 1)) '0' := by
    rw [List.take_append, List.take_of_length_le (by omega), length, List.take_replicate,
      Nat.min_eq_left (by omega)]
  unfold fraction
  rw [get_bind_eq]
  simp only [List.cons_append, run, inhabited, List.drop_left, filled,
    Numeral.value_append_replicate, Numeral.value_writePadded]
  rfl

/-- A fraction is read as the nanoseconds that it was written for. -/
theorem fraction_writeFraction {nano : Nat} (small : nano < nanosPerSecond) {rest : Text}
    (stops : Stops rest) (noPoint : rest.head? ≠ some '.') :
    fraction (Instant.writeFraction nano ++ rest) = some (nano, rest) := by
  simp only [nanosPerSecond] at small
  unfold Instant.writeFraction
  by_cases whole : nano = 0
  · rw [if_pos whole, List.nil_append, whole]
    unfold fraction
    rw [get_bind_eq]
    split
    · exact absurd rfl noPoint
    · rfl
  · rw [if_neg whole]
    by_cases millis : nano % nanosPerMilli = 0
    · have places : nano / nanosPerMilli * 10 ^ 6 = nano := by
        simp only [nanosPerMilli] at millis ⊢
        omega
      have fits : nano / nanosPerMilli < 10 ^ 3 := by
        simp only [nanosPerMilli]
        omega
      rw [if_pos millis, fraction_places fits (by decide) stops, places]
    · rw [if_neg millis]
      by_cases micros : nano % 1000 = 0
      · have places : nano / 1000 * 10 ^ 3 = nano := by omega
        rw [if_pos micros, fraction_places (by omega) (by decide) stops, places]
      · rw [if_neg micros, fraction_places (by omega) (by decide) stops, Nat.pow_zero, Nat.mul_one]

/-- The distance of universal time from itself is none. -/
theorem offset_universal : offset ['Z'] = some (0, []) := rfl

/-- A date and a time of day are read part by part, and mean a time in universal time. -/
theorem instant_parts {date : Date} {hour minute second nano : Nat} (month : date.month < 100)
    (day : date.day < 100) (hours : hour < 100) (minutes : minute < 100) (seconds : second < 100)
    (nanos : nano < nanosPerSecond) :
    instant (date.write ++ 'T' :: writePadded 2 hour ++ ':' :: writePadded 2 minute ++
        ':' :: writePadded 2 second ++ Instant.writeFraction nano ++ ['Z']) =
      (Instant.ofLocal? date hour minute second nano 0).map fun instant => (instant, []) := by
  have behind : Stops ['Z'] := stops_cons rfl []
  have solid : blanks [] = some ((), []) := rfl
  unfold instant Date.write
  simp only [List.append_assoc, List.cons_append]
  rw [bind_eq (year_writeYear _ (stops_cons (by decide) _)), bind_eq (mark_cons (by decide) _),
    bind_eq (field_writePadded month _), bind_eq (mark_cons (by decide) _),
    bind_eq (field_writePadded day _), bind_eq (character_cons (by decide) _),
    bind_eq (field_writePadded hours _), bind_eq (mark_cons (by decide) _),
    bind_eq (field_writePadded minutes _), bind_eq (mark_cons (by decide) _),
    bind_eq (field_writePadded seconds _),
    bind_eq (fraction_writeFraction nanos behind (by decide)),
    bind_eq (blanks_cons (by decide) _), bind_eq offset_universal, bind_eq solid, get_bind_eq]
  cases Instant.ofLocal? date hour minute second nano 0 with
  | none => rfl
  | some instant => rfl

end Lenient

/-- The time of day that is written for an instant, on the instant's date, means the
instant. The parts of the time of day put together are the second of the day; only a
sixtieth second is counted back. -/
theorem ofLocal?_parts {instant : Instant} {second nano : Nat}
    (shown : second = 60 ∧ instant.second % 60 = 59 ∧ nano + nanosPerSecond = instant.nano ∨
      second = instant.second % 60 ∧ nano = instant.nano) :
    Instant.ofLocal? instant.date (instant.second / 3600) (instant.second / 60 % 60) second nano
      0 = some instant := by
  have early := instant.day_ge
  have late := instant.day_le
  have inDay := instant.second_lt
  have counted : instant.date.dayNumber = instant.day := Date.dayNumber_ofDayNumber instant.day
  -- A leap second is written as a sixtieth one; it is kept in the nanoseconds.
  have secondOfMinute : (if second = 60 then 59 else second) = instant.second % 60 := by
    rcases shown with ⟨sixtieth, last, -⟩ | ⟨same, -⟩
    · rw [if_pos sixtieth, last]
    · rw [if_neg (by omega), same]
  have nanos : nano + (if second = 60 then nanosPerSecond else 0) = instant.nano := by
    rcases shown with ⟨sixtieth, -, same⟩ | ⟨ordinary, same⟩
    · rw [if_pos sixtieth, same]
    · rw [if_neg (by omega), same, Nat.add_zero]
  have parts : instant.date.isValid = true ∧ instant.second / 3600 < 24 ∧
      instant.second / 60 % 60 < 60 ∧ instant.second % 60 < 60 := by
    refine ⟨Date.isValid_ofDayNumber early late, ?_⟩
    omega
  have total : instant.day * secondsPerDay + ((instant.second / 3600 * 3600 +
      instant.second / 60 % 60 * 60 + instant.second % 60 : Nat) : Int) - 0 =
        instant.day * secondsPerDay + instant.second := by
    omega
  have day : (instant.day * secondsPerDay + instant.second) / secondsPerDay = instant.day := by
    simp only [secondsPerDay]
    omega
  have rest : ((instant.day * secondsPerDay + instant.second) % secondsPerDay).toNat =
      instant.second := by
    simp only [secondsPerDay]
    omega
  have whole : Instant.of? instant.day instant.second instant.nano = some instant := by
    rw [Instant.of?, dif_pos ⟨early, late, inDay, instant.nano_lt⟩]
  unfold Instant.ofLocal?
  simp only [secondOfMinute, nanos, counted]
  rw [if_pos parts, total, day, rest, whole]

/-- A written instant is read back in the free form. -/
theorem readLenient?_write (instant : Instant) : readLenient? instant.write = some instant := by
  have inDay := instant.second_lt
  have bound := instant.nano_lt
  have small : instant.date.month < 100 ∧ instant.date.day < 100 :=
    Date.ofDayNumber_small instant.day
  have hours : instant.second / 3600 < 100 := by omega
  have minutes : instant.second / 60 % 60 < 100 := by omega
  have found : Lenient.instant instant.write = some (instant, []) := by
    unfold Instant.write
    by_cases leap : nanosPerSecond ≤ instant.nano
    · have last : instant.second % 60 = 59 ∧ instant.nano - nanosPerSecond < nanosPerSecond := by
        split at bound <;> omega
      have shown : Instant.ofLocal? instant.date (instant.second / 3600)
          (instant.second / 60 % 60) (59 + 1) (instant.nano - nanosPerSecond) 0 = some instant :=
        ofLocal?_parts (Or.inl ⟨rfl, last.1, Nat.sub_add_cancel leap⟩)
      simp only [leap, ↓reduceIte, last.1]
      rw [Lenient.instant_parts small.1 small.2 hours minutes (by decide) last.2, shown]
      rfl
    · have shown := ofLocal?_parts (Or.inr ⟨Eq.refl (instant.second % 60), Eq.refl instant.nano⟩)
      simp only [leap, ↓reduceIte, Nat.add_zero, Nat.sub_zero]
      rw [Lenient.instant_parts small.1 small.2 hours minutes (by omega) (Nat.not_le.1 leap), shown]
      rfl
  change (Lenient.instant instant.write).map Prod.fst = some instant
  rw [found]
  rfl

end Calendar

end QueryMacros
