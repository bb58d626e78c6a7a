import QueryMacros.Proofs.Builtin.BareCall
import QueryMacros.Proofs.Builtin.TimeFilters
import QueryMacros.Proofs.Number.ExactThousandths

/-!
# Exact seconds

The two boundaries in seconds keep the milliseconds of the range. All instants are near
enough to 1970 for floating-point values to lie closer together than milliseconds do, so a
boundary comes to the exact decimal of its thousandths of a second: no digit is lost at the
ends of the calendar, and none is made up. So from what a boundary comes to the millisecond
can be read off again.
-/
namespace QueryMacros

open Macro Sql

variable {σ : Type}

/-! ## Bounds -/

/-- Every instant is less than 2⁴³ seconds away from the start of 1970. -/
theorem Instant.toMillis_small (instant : Instant) : instant.toMillis.natAbs < 1000 * 2 ^ 43 := by
  have first : Date.firstDay = -96465292 := by decide
  have last : Date.lastDay = 95026236 := by decide
  have early := instant.day_ge
  have late := instant.day_le
  have second := instant.second_lt
  have nano : instant.nano < 2000000000 := by
    have bound := instant.nano_lt
    simp only [nanosPerSecond] at bound
    split at bound <;> omega
  simp only [toMillis, toSeconds, secondsPerDay, nanosPerMilli]
  omega

/-- An instant in seconds with a fraction is written as the exact number of thousandths. -/
theorem Instant.writeNumber_fractionalSeconds (instant : Instant) :
    instant.fractionalSeconds.writeNumber = Numeral.writeThousandths instant.toMillis := by
  rw [fractionalSeconds, Binary64.writeNumber_divide_thousand instant.toMillis_small]

/-- The call that stands for a number of milliseconds after the start of 1970. -/
def Sql.thousandthsBound (millis : Int) : Text :=
  "toDateTime(" ++ Numeral.writeThousandths millis ++ ")"

/-- The bound to the exact second shows the milliseconds of an instant as thousandths. -/
theorem Sql.exactSecondBound_eq (instant : Instant) :
    exactSecondBound instant = thousandthsBound instant.toMillis := by
  unfold exactSecondBound
  rw [instant.writeNumber_fractionalSeconds]
  rfl

/-- Different milliseconds are written as different bounds. -/
theorem Sql.thousandthsBound_injective {left right : Int}
    (same : thousandthsBound left = thousandthsBound right) : left = right := by
  unfold thousandthsBound at same
  have numbers := List.append_right_injective _ (List.append_left_injective _ same)
  exact Numeral.writeThousandths_injective numbers

/-! ## Boundaries -/

/-- A query whose only dollar begins a call without arguments comes to the query with the
expansion in the place of the call, if the expansion has no dollar. -/
theorem expandMacros_bareCall {callee : Callee} {context : Context σ} {expansion : Text}
    (expands : Expands callee.applier context [] expansion) (noDollar : '$' ∉ expansion)
    {before behind : Text} (noDollarBefore : '$' ∉ before) (noDollarBehind : '$' ∉ behind) :
    expandMacros context (before ++ callee.bareCall ++ behind) =
      pure (before ++ expansion ++ behind) := by
  obtain ⟨earlier, later, order, new⟩ := List.eq_append_cons_of_mem callee.mem_all
  have unnamed : ∀ other ∈ earlier, ¬ Occurs other.name (before ++ callee.bareCall ++ behind) := by
    intro other member
    refine Callee.not_occurs_bareCall ?_ noDollarBefore noDollarBehind
    rintro rfl
    exact new member
  have settled : ∀ other ∈ later, ¬ Occurs other.name (before ++ expansion ++ behind) := by
    intro other _
    apply other.not_occurs_of_no_dollar
    simp [noDollar, noDollarBefore, noDollarBehind]
  have here := expands (before ++ callee.bareCall ++ behind) (callee.bareInvocation before) rfl
  rw [Callee.expandMacros_eq_passes, order, Callee.passes_append,
    Callee.passes_of_not_occurs unnamed, pure_bind, Callee.passes_cons,
    Callee.applyAll_bareCall noDollarBefore noDollarBehind, here, pure_bind, pure_bind,
    Callee.passes_of_not_occurs settled]

/-- A macro that is called without arguments stands for a text: it comes to the text
wherever it is called, and so does a query whose only dollar begins the call. -/
structure Callee.StandsFor (callee : Callee) (context : Context σ) (text : Text) : Prop where
  expands : Expands callee.applier context [] text
  whole : ∀ before behind : Text, '$' ∉ before → '$' ∉ behind →
    expandMacros context (before ++ callee.bareCall ++ behind) = pure (before ++ text ++ behind)

/-- A macro whose form is an exact bound stands for the thousandths of its instant. -/
theorem standsFor_thousandths {callee : Callee} {context : Context σ} {range : TimeRange}
    {instant : Instant} (plain : callee ≠ .adHocFilter ∧ callee ≠ .conditionalAll)
    (bare : callee.arity = 0) (ranged : context.timeRange = some range)
    (form : callee.form context range [] = [.literal (exactSecondBound instant)]) :
    callee.StandsFor context (thousandthsBound instant.toMillis) := by
  have count : ([] : List Text).length = callee.arity := bare.symm
  have expands := expands_form plain ranged count (List.forall_mem_nil _)
  have noDollar := (isPlaceable_exactSecondBound instant).noDollar
  rw [List.map_nil, form, Callee.fill_literal, Callee.fill_nil, List.append_nil,
    exactSecondBound_eq] at expands
  rw [exactSecondBound_eq] at noDollar
  exact ⟨expands, fun _ _ before behind => expandMacros_bareCall expands noDollar before behind⟩

/-- The boundaries in seconds stand for the milliseconds that their range was given in. -/
theorem boundaries_standFor {context : Context σ} {range : TimeRange} {start stop : Int}
    (built : TimeRange.ofMillis? start stop = some range)
    (ranged : context.timeRange = some range) :
    Callee.fromTime.StandsFor context (thousandthsBound start) ∧
      Callee.toTime.StandsFor context (thousandthsBound stop) := by
  obtain ⟨startBuilt, stopBuilt⟩ := TimeRange.ofMillis?_eq_some built
  rw [← (Instant.ofMillis?_rounded startBuilt).1, ← (Instant.ofMillis?_rounded stopBuilt).1]
  exact ⟨standsFor_thousandths (by decide) rfl ranged rfl,
    standsFor_thousandths (by decide) rfl ranged rfl⟩

/-- The text that a macro stands for can be read off the query that is its call. -/
theorem Callee.StandsFor.unique {callee : Callee} {context other : Context σ}
    {text otherText : Text} (stands : callee.StandsFor context text)
    (otherStands : callee.StandsFor other otherText) {state : σ}
    (same : (expandMacros context callee.bareCall state).1 =
      (expandMacros other callee.bareCall state).1) : text = otherText := by
  have first := stands.whole [] [] List.not_mem_nil List.not_mem_nil
  have second := otherStands.whole [] [] List.not_mem_nil List.not_mem_nil
  rw [List.append_nil, List.append_nil, List.nil_append, List.nil_append] at first second
  rw [first, second] at same
  exact Except.ok.inj same

/-- Over the whole calendar the boundaries in seconds show the exact decimals of the
milliseconds that the range was given in. So the queries of two ranges are the same only if
the milliseconds are. -/
theorem boundaries_exact {context : Context σ} {range : TimeRange} {start stop : Int}
    (built : TimeRange.ofMillis? start stop = some range)
    (ranged : context.timeRange = some range) :
    (Callee.fromTime.StandsFor context ("toDateTime(" ++ Numeral.writeThousandths start ++ ")") ∧
      Callee.toTime.StandsFor context ("toDateTime(" ++ Numeral.writeThousandths stop ++ ")")) ∧
    (Numeral.readDecimal? (Numeral.writeThousandths start) = some ((start : ℚ) / 1000) ∧
      Numeral.readDecimal? (Numeral.writeThousandths stop) = some ((stop : ℚ) / 1000)) ∧
    ∀ {other : Context σ} {otherRange : TimeRange} {otherStart otherStop : Int} {state : σ},
      TimeRange.ofMillis? otherStart otherStop = some otherRange →
      other.timeRange = some otherRange →
      ((expandMacros context "$__fromTime()" state).1 =
            (expandMacros other "$__fromTime()" state).1 → start = otherStart) ∧
        ((expandMacros context "$__toTime()" state).1 =
            (expandMacros other "$__toTime()" state).1 → stop = otherStop) := by
  obtain ⟨first, last⟩ := boundaries_standFor built ranged
  refine ⟨⟨first, last⟩, ⟨Numeral.readDecimal?_writeThousandths start,
    Numeral.readDecimal?_writeThousandths stop⟩, fun otherBuilt otherRanged => ?_⟩
  obtain ⟨otherFirst, otherLast⟩ := boundaries_standFor otherBuilt otherRanged
  exact ⟨fun same => thousandthsBound_injective (first.unique otherFirst same),
    fun same => thousandthsBound_injective (last.unique otherLast same)⟩

/-- The last millisecond of the calendar, behind one just before 1970. -/
def calendarEnd : TimeRange := (TimeRange.ofMillis? (-999) 8210266876799999).get (by decide)

/-- A sign, a zero in front of the point and the last digit at the end of the calendar are
all there. -/
theorem boundaries_exact_calendarEnd :
    TimeRange.ofMillis? (-999) 8210266876799999 = some calendarEnd ∧
      (expandMacros ({ Context.empty with timeRange := some calendarEnd } : Context Unit)
          "SELECT $__fromTime()" ()).1 = .ok "SELECT toDateTime(-0.999)" ∧
      (expandMacros ({ Context.empty with timeRange := some calendarEnd } : Context Unit)
          "SELECT $__toTime()" ()).1 = .ok "SELECT toDateTime(8210266876799.999)" := by
  have built : TimeRange.ofMillis? (-999) 8210266876799999 = some calendarEnd :=
    (Option.some_get _).symm
  have exact := boundaries_exact built
    (show ({ Context.empty with timeRange := some calendarEnd } : Context Unit).timeRange = _
      from rfl)
  have first := exact.1.1.whole "SELECT " [] (by decide) (by decide)
  have last := exact.1.2.whole "SELECT " [] (by decide) (by decide)
  have shown : Numeral.writeThousandths (-999) = "-0.999" ∧
      Numeral.writeThousandths 8210266876799999 = "8210266876799.999" := by
    decide +kernel
  rw [shown.1] at first
  rw [shown.2] at last
  exact ⟨built, congrArg Prod.fst (congrFun first ()), congrArg Prod.fst (congrFun last ())⟩

end QueryMacros
