import QueryMacros.Proofs.Sql.Bounds

/-!
# Filters of time

The filters of one range differ in how far they round: to the millisecond, to the second, to
the day. All of them round toward the past, at both ends, and toward the past a coarser
rounding is a rounding of the finer one. So the day of a second that is kept is kept, and
so is the second of a millisecond. A filter on days adds nothing to one on the times
themselves.
-/
namespace QueryMacros

open Macro Sql

variable {σ : Type}

/-! ## Rounding -/

namespace Instant

/-- An instant has the parts that it is built of. -/
theorem of?_eq_some {day : Int} {second nano : Nat} {instant : Instant}
    (built : of? day second nano = some instant) :
    instant.day = day ∧ instant.second = second ∧ instant.nano = nano := by
  obtain ⟨inRange, same⟩ := Option.dite_none_right_eq_some.1 built
  obtain rfl := Option.some.inj same
  exact ⟨rfl, rfl, rfl⟩

/-- The milliseconds, seconds and days of an instant that is given in milliseconds. -/
theorem ofMillis?_rounded {millis : Int} {instant : Instant}
    (built : ofMillis? millis = some instant) :
    instant.toMillis = millis ∧ instant.toSeconds = millis / 1000 ∧
      instant.day = millis / 1000 / secondsPerDay := by
  obtain ⟨day, second, nano⟩ := of?_eq_some built
  simp only [toMillis, toSeconds, day, second, nano, secondsPerDay, nanosPerMilli]
  omega

/-- The second of an instant lies in its day. -/
theorem day_bounds (instant : Instant) :
    instant.day * secondsPerDay ≤ instant.toSeconds ∧
      instant.toSeconds < (instant.day + 1) * secondsPerDay := by
  have inDay := instant.second_lt
  simp only [toSeconds, secondsPerDay]
  omega

end Instant

/-- The two instants of a range are given each for itself. -/
theorem TimeRange.ofMillis?_eq_some {start stop : Int} {range : TimeRange}
    (built : TimeRange.ofMillis? start stop = some range) :
    Instant.ofMillis? start = some range.start ∧ Instant.ofMillis? stop = some range.stop := by
  obtain ⟨first, startBuilt, rest⟩ := Option.bind_eq_some_iff.1 built
  obtain ⟨last, stopBuilt, same⟩ := Option.bind_eq_some_iff.1 rest
  obtain rfl := Option.some.inj same
  exact ⟨startBuilt, stopBuilt⟩

/-- The day of a whole second. -/
theorem floor_day (second : Int) : ⌊(second : ℚ) / secondsPerDay⌋ = second / secondsPerDay := by
  have divided := Rat.floor_intCast_div_natCast second 86400
  simpa [secondsPerDay] using divided

/-- The day of a time lies between the days of two instants if the time lies between their
seconds. -/
theorem floor_day_between (start stop : Instant) {time : ℚ} (low : start.toSeconds ≤ time)
    (high : time ≤ stop.toSeconds) :
    start.day ≤ ⌊time / secondsPerDay⌋ ∧ ⌊time / secondsPerDay⌋ ≤ stop.day := by
  have startDay : (start.day * secondsPerDay : ℚ) ≤ start.toSeconds := by
    exact_mod_cast start.day_bounds.1
  have stopDay : (stop.toSeconds : ℚ) < (stop.day + 1) * secondsPerDay := by
    exact_mod_cast stop.day_bounds.2
  have positive : (0 : ℚ) < secondsPerDay := by norm_num [secondsPerDay]
  constructor
  · rw [Int.le_floor, le_div_iff₀ positive]
    exact startDay.trans low
  · rw [← Int.lt_add_one_iff, Int.floor_lt, div_lt_iff₀ positive]
    push_cast
    exact high.trans_lt stopDay

/-! ## Expansions -/

/-- Wherever it stands, a call of a macro with the given arguments comes to a text. -/
def Expands (applier : Applier σ) (context : Context σ) (arguments : List Text) (text : Text) :
    Prop :=
  ∀ sql invocation, invocation.arguments = arguments →
    applier.expand sql invocation context = pure text

/-- In a range a call with arguments that are not blank comes to the form of its macro. -/
theorem expands_form {callee : Callee} (plain : callee ≠ .adHocFilter ∧ callee ≠ .conditionalAll)
    {context : Context σ} {range : TimeRange} (ranged : context.timeRange = some range)
    {arguments : List Text} (count : arguments.length = callee.arity)
    (filled : ∀ argument ∈ arguments, argument.all Text.isBlank = false) :
    Expands callee.applier context arguments
      (Callee.fill (callee.form context range (arguments.map Text.trim))
        (arguments.map Text.trim)) := by
  intro sql invocation called
  have accepted : callee.Accepts invocation.arguments := by
    rw [called]
    exact ⟨count, fun argument member => (solid_strip (filled argument member)).ne_nil⟩
  rw [← called]
  exact Callee.expand_of_accepts ranged accepted (fun same => absurd same plain.1)
    (fun same => absurd same plain.2) sql

/-- In a range a filter comes to the condition between the bounds of the range. -/
theorem expands_between (callee : Callee) {bound : Instant → Text}
    (plain : callee ≠ .adHocFilter ∧ callee ≠ .conditionalAll) (single : callee.arity = 1)
    {context : Context σ} {range : TimeRange} (ranged : context.timeRange = some range)
    (form : ∀ arguments, callee.form context range arguments = Callee.betweenForm bound 0 range)
    {column : Text} (filled : column.all Text.isBlank = false) :
    Expands callee.applier context [column] (between bound (Text.trim column) range) := by
  have count : [column].length = callee.arity := single.symm
  have expands := expands_form plain ranged count (List.forall_mem_singleton.2 filled)
  rw [form, Callee.fill_betweenForm] at expands
  exact expands

/-- In a range a filter on days and times comes to the conditions on both. -/
theorem expands_between_and {callee : Callee}
    (both : callee = .dateTimeFilter ∨ callee = .dateTimeFilterShort) {context : Context σ}
    {range : TimeRange} (ranged : context.timeRange = some range) {dates times : Text}
    (datesFilled : dates.all Text.isBlank = false) (timesFilled : times.all Text.isBlank = false) :
    Expands callee.applier context [dates, times]
      (between dateBound (Text.trim dates) range ++ " AND " ++
        between secondBound (Text.trim times) range) := by
  have filled : ∀ argument ∈ [dates, times], argument.all Text.isBlank = false :=
    List.forall_mem_cons.2 ⟨datesFilled, List.forall_mem_singleton.2 timesFilled⟩
  have text : Callee.fill (Callee.betweenForm dateBound 0 range ++
      .literal " AND " :: Callee.betweenForm secondBound 1 range)
        [Text.trim dates, Text.trim times] =
        between dateBound (Text.trim dates) range ++ " AND " ++
          between secondBound (Text.trim times) range := by
    rw [Callee.fill_append, Callee.fill_literal, Callee.fill_betweenForm, Callee.fill_betweenForm,
      List.append_assoc]
    rfl
  rw [← text]
  rcases both with rfl | rfl
  · exact expands_form (by decide) ranged rfl filled
  · exact expands_form (by decide) ranged rfl filled

/-- The conditions that the filters of a range come to fit into each other. Their bounds are
the ends of the range, the seconds of these, and the days of those seconds. The second of a
millisecond that is kept is kept, and so is the day of a second. The filter on days and
times keeps a time, to whatever fraction of a second, with the day of that time exactly if
the filter to the second does. -/
theorem timeFilters_nested {context : Context σ} {range : TimeRange} {start stop : Int}
    (built : TimeRange.ofMillis? start stop = some range)
    (ranged : context.timeRange = some range) {dates times : Text}
    (datesFilled : dates.all Text.isBlank = false) (timesFilled : times.all Text.isBlank = false) :
    ∃ fine middle coarse both,
      (Expands Builtin.timeFilterMillis context [times] fine ∧
        Expands Builtin.timeFilter context [times] middle ∧
        Expands Builtin.dateFilter context [dates] coarse ∧
        Expands Builtin.dateTimeFilter context [dates, times] both ∧
        Expands Builtin.dateTimeFilterShort context [dates, times] both) ∧
      ((∀ millis : Int, keeps [⟨Text.trim times, .milliseconds, millis⟩] fine = true ↔
          start ≤ millis ∧ millis ≤ stop) ∧
        (∀ second : Int, keeps [⟨Text.trim times, .seconds, second⟩] middle = true ↔
          start / 1000 ≤ second ∧ second ≤ stop / 1000) ∧
        ∀ day : Int, keeps [⟨Text.trim dates, .days, day⟩] coarse = true ↔
          start / 1000 / secondsPerDay ≤ day ∧ day ≤ stop / 1000 / secondsPerDay) ∧
      (∀ millis : Int, keeps [⟨Text.trim times, .milliseconds, millis⟩] fine = true →
        keeps [⟨Text.trim times, .seconds, (millis / 1000 : Int)⟩] middle = true) ∧
      (∀ second : Int, keeps [⟨Text.trim times, .seconds, second⟩] middle = true →
        keeps [⟨Text.trim dates, .days, (second / secondsPerDay : Int)⟩] coarse = true) ∧
      ∀ time : ℚ, keeps [⟨Text.trim dates, .days, ⌊time / secondsPerDay⌋⟩,
          ⟨Text.trim times, .seconds, time⟩] both = true ↔
        keeps [⟨Text.trim times, .seconds, time⟩] middle = true := by
  obtain ⟨startBuilt, stopBuilt⟩ := TimeRange.ofMillis?_eq_some built
  obtain ⟨startMillis, startSecond, startDay⟩ := Instant.ofMillis?_rounded startBuilt
  obtain ⟨stopMillis, stopSecond, stopDay⟩ := Instant.ofMillis?_rounded stopBuilt
  have fineExpands :=
    expands_between .timeFilterMillis (by decide) rfl ranged (fun _ => rfl) timesFilled
  have middleExpands :=
    expands_between .timeFilter (by decide) rfl ranged (fun _ => rfl) timesFilled
  have coarseExpands :=
    expands_between .dateFilter (by decide) rfl ranged (fun _ => rfl) datesFilled
  refine ⟨_, _, _, _, ⟨fineExpands, middleExpands, coarseExpands,
    expands_between_and (.inl rfl) ranged datesFilled timesFilled,
    expands_between_and (.inr rfl) ranged datesFilled timesFilled⟩, ⟨?_, ?_, ?_⟩, ?_, ?_, ?_⟩
  -- What each filter keeps is read off its bounds, one scale at a time.
  · intro millis
    rw [keeps_between Scale.measures_milliseconds, startMillis, stopMillis]
    simp only [Int.cast_le]
  · intro second
    rw [keeps_between Scale.measures_seconds, startSecond, stopSecond]
    simp only [Int.cast_le]
  · intro day
    rw [keeps_between Scale.measures_days, startDay, stopDay]
    simp only [Int.cast_le]
  -- Rounding down to a coarser scale is monotone, so a kept value stays between the bounds.
  · intro millis kept
    rw [keeps_between Scale.measures_milliseconds, startMillis, stopMillis] at kept
    rw [keeps_between Scale.measures_seconds, startSecond, stopSecond]
    simp only [Int.cast_le] at kept ⊢
    exact ⟨Int.ediv_le_ediv (by decide) kept.1, Int.ediv_le_ediv (by decide) kept.2⟩
  · intro second kept
    rw [keeps_between Scale.measures_seconds] at kept
    rw [keeps_between Scale.measures_days]
    have day := floor_day_between range.start range.stop kept.1 kept.2
    rw [floor_day] at day
    simpa only [Int.cast_le] using day
  · intro time
    rw [keeps_between_and Scale.measures_days range (List.cons_ne_nil _ _),
      keeps_between Scale.measures_seconds]
    simp only [Int.cast_le]
    constructor
    -- The date adds nothing: a kept time has a day between the days of the bounds.
    · exact And.right
    · intro kept
      exact ⟨floor_day_between range.start range.stop kept.1 kept.2, kept⟩

/-- A range across the start of 1970. -/
def acrossEpoch : TimeRange := (TimeRange.ofMillis? (-999) 1500).get rfl

/-- Before 1970 rounding toward the past leads away from zero: the millisecond −1 is kept
with the second −1 and the day −1. -/
theorem timeFilters_nested_acrossEpoch :
    TimeRange.ofMillis? (-999) 1500 = some acrossEpoch ∧
      ∃ fine middle coarse both,
        Expands Builtin.dateTimeFilterShort
          ({ Context.empty with timeRange := some acrossEpoch } : Context Unit)
          [" d".toList, "t".toList] both ∧
        keeps [⟨"t".toList, .milliseconds, (-1 : Int)⟩] fine = true ∧
        keeps [⟨"t".toList, .seconds, (-1 : Int)⟩] middle = true ∧
        keeps [⟨"d".toList, .days, (-1 : Int)⟩] coarse = true := by
  have built : TimeRange.ofMillis? (-999) 1500 = some acrossEpoch := rfl
  have trimmed : Text.trim " d".toList = "d".toList ∧ Text.trim "t".toList = "t".toList := by
    decide
  obtain ⟨fine, middle, coarse, both, ⟨-, -, -, -, expands⟩, ⟨kept, -, -⟩, seconds, days, -⟩ :=
    timeFilters_nested built
      (show ({ Context.empty with timeRange := some acrossEpoch } : Context Unit).timeRange = _
        from rfl)
      (show " d".toList.all Text.isBlank = false by decide)
      (show "t".toList.all Text.isBlank = false by decide)
  rw [trimmed.1] at days
  rw [trimmed.2] at kept seconds days
  have first := (kept (-1)).2 (by decide)
  have second := seconds (-1) first
  rw [show (-1 : Int) / 1000 = -1 from by decide] at second
  have day := days (-1) second
  rw [show (-1 : Int) / secondsPerDay = -1 from by decide] at day
  exact ⟨built, fine, middle, coarse, both, expands, first, second, day⟩

end QueryMacros
