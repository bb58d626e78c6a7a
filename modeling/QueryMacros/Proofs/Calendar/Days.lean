import QueryMacros.Calendar.Date

/-!
# Days and their dates

The years follow each other without a gap, and the months within a year, so that every
day falls into exactly one year, one month of it, and one day of that month. The date
that is found for a day is that place: it is in the calendar, and counting up to it gives
the day again.
-/
namespace QueryMacros.Date

/-! ## Years -/

/-- The estimated year is at most one off, and the correction makes it the year of the day. -/
theorem yearOf_spec (day : Int) :
    yearStart (yearOf day) ≤ day ∧ day < yearStart (yearOf day + 1) := by
  unfold yearOf
  generalize estimated : 400 * (day + 719162) / 146097 + 1 = estimate
  by_cases early : day < yearStart estimate
  · rw [if_pos early, Int.sub_add_cancel]
    refine ⟨?_, early⟩
    simp only [yearStart]
    omega
  · rw [if_neg early]
    by_cases late : yearStart (estimate + 1) ≤ day
    · rw [if_pos late]
      refine ⟨late, ?_⟩
      simp only [yearStart]
      omega
    · rw [if_neg late]
      exact ⟨Int.not_lt.1 early, Int.not_le.1 late⟩

/-- No year starts before an earlier one. -/
theorem yearStart_mono {earlier later : Int} (order : earlier ≤ later) :
    yearStart earlier ≤ yearStart later := by
  rcases Int.lt_or_eq_of_le order with less | same
  · simp only [yearStart]
    omega
  · exact Int.le_of_eq (congrArg yearStart same)

/-- The months of a year take it to the start of the next one. -/
theorem yearStart_succ (year : Int) :
    yearStart (year + 1) =
      yearStart year + daysIn (monthLengths year).length (monthLengths year) := by
  have leap : isLeap year = true ↔ year % 4 = 0 ∧ (year % 100 ≠ 0 ∨ year % 400 = 0) := by
    simp [isLeap]
  simp only [yearStart, monthLengths]
  by_cases isLong : isLeap year = true
  · have divisible := leap.1 isLong
    rw [if_pos isLong]
    simp only [List.length_cons, List.length_nil, daysIn]
    omega
  · have indivisible := mt leap.2 isLong
    rw [if_neg isLong]
    simp only [List.length_cons, List.length_nil, daysIn]
    omega

/-- The days of the calendar lie in its years. -/
theorem yearOf_range {day : Int} (low : firstDay ≤ day) (high : day ≤ lastDay) :
    firstYear ≤ yearOf day ∧ yearOf day ≤ lastYear := by
  obtain ⟨started, ended⟩ := yearOf_spec day
  constructor
  · refine Int.not_lt.1 fun before => ?_
    have next : yearOf day + 1 ≤ firstYear := by omega
    have passed := yearStart_mono next
    simp only [firstDay] at low
    omega
  · refine Int.not_lt.1 fun behind => ?_
    have next : lastYear + 1 ≤ yearOf day := by omega
    have passed := yearStart_mono next
    simp only [lastDay] at high
    omega

/-! ## Months -/

/-- The month and the day that are found lie within the lengths, and counting the months
before and the days up to it gives the days that passed. -/
theorem monthAndDay_spec (month : Nat) {lengths : List Nat} {passed : Nat}
    (inside : passed < daysIn lengths.length lengths) :
    ∃ months day, monthAndDay month lengths passed = (month + months, day + 1) ∧
      day < lengths.getD months 0 ∧ months < lengths.length ∧
      daysIn months lengths + day = passed := by
  induction lengths generalizing month passed with
  | nil => cases inside
  | cons length lengths inductionHypothesis =>
    by_cases here : passed < length
    · refine ⟨0, passed, ?_, here, Nat.zero_lt_succ _, ?_⟩
      · rw [monthAndDay, if_pos here]
        rfl
      · rw [daysIn, Nat.zero_add]
    · have later : passed - length < daysIn lengths.length lengths := by
        rw [List.length_cons, daysIn] at inside
        omega
      obtain ⟨months, day, found, fits, bounded, counted⟩ := inductionHypothesis (month + 1) later
      refine ⟨months + 1, day, ?_, fits, Nat.succ_lt_succ bounded, ?_⟩
      · rw [monthAndDay, if_neg here, found, Nat.add_assoc, Nat.add_comm 1]
      · rw [daysIn]
        omega

/-! ## Days -/

/-- The place of a day in its year. -/
theorem ofDayNumber_spec (number : Int) :
    ∃ months day, ofDayNumber number = ⟨yearOf number, months + 1, day + 1⟩ ∧
      day < (monthLengths (yearOf number)).getD months 0 ∧ months < 12 ∧
      yearStart (yearOf number) + (daysIn months (monthLengths (yearOf number)) + day : Nat) =
        number := by
  obtain ⟨started, ended⟩ := yearOf_spec number
  have inside : (number - yearStart (yearOf number)).toNat <
      daysIn (monthLengths (yearOf number)).length (monthLengths (yearOf number)) := by
    rw [yearStart_succ] at ended
    omega
  obtain ⟨months, day, found, fits, bounded, counted⟩ := monthAndDay_spec 1 inside
  refine ⟨months, day, ?_, fits, bounded, ?_⟩
  · simp only [ofDayNumber, found, Nat.add_comm 1]
  · omega

/-- Counting up to the date of a day gives the day. -/
theorem dayNumber_ofDayNumber (number : Int) : (ofDayNumber number).dayNumber = number := by
  obtain ⟨months, day, found, -, -, counted⟩ := ofDayNumber_spec number
  simp only [found, dayNumber, Nat.add_sub_cancel]
  omega

/-- Every day in range has a date in the calendar. -/
theorem isValid_ofDayNumber {number : Int} (low : firstDay ≤ number) (high : number ≤ lastDay) :
    (ofDayNumber number).isValid = true := by
  obtain ⟨months, day, found, fits, -, -⟩ := ofDayNumber_spec number
  obtain ⟨early, late⟩ := yearOf_range low high
  simp only [found, isValid, Bool.and_eq_true, decide_eq_true_eq, Nat.add_sub_cancel]
  omega

/-- The month and the day of a date that is found have at most two digits. -/
theorem ofDayNumber_small (number : Int) :
    (ofDayNumber number).month < 100 ∧ (ofDayNumber number).day < 100 := by
  obtain ⟨months, day, found, fits, bounded, -⟩ := ofDayNumber_spec number
  have short : (monthLengths (yearOf number)).getD months 0 ≤ 31 := by
    rw [List.getD_eq_getElem?_getD]
    cases present : (monthLengths (yearOf number))[months]? with
    | none => simp
    | some length =>
      have member := List.mem_of_getElem? present
      have each : ∀ length ∈ monthLengths (yearOf number), length ≤ 31 := by
        simp only [monthLengths]
        split <;> decide
      exact each length member
  rw [found]
  constructor <;> simp only <;> omega

end QueryMacros.Date
