import QueryMacros.Proofs.Builtin.Callee

/-!
# The forms of the built-in macros

In a context with a time range every built-in macro but the ad-hoc filter expands
to a *form*: literal pieces, and arguments without the blanks around them. The
ad-hoc filter does so where there is nothing to filter by. A call that does not
have the arguments of its macro has no expansion at all.
-/
namespace QueryMacros.Callee

open Macro Applier

variable {σ : Type}

/-- The text of pieces, with arguments in their places. -/
def fill (pieces : List Piece) (arguments : List Text) : Text :=
  pieces.flatMap fun
    | .literal text => text
    | .argument index => arguments.getD index []

/-- A column between the two bounds of a range, the column being an argument. -/
def betweenForm (bound : Instant → Text) (index : Nat) (range : TimeRange) : List Piece :=
  [ .argument index, .literal (" >= " ++ bound range.start ++ " AND "), .argument index,
    .literal (" <= " ++ bound range.stop)]

/-- The reference, which is the second argument, narrows the query. -/
def selects (context : Context σ) (arguments : List Text) : Bool :=
  let reference := arguments.getD 1 []
  (variableName? reference).any (context.isSelective reference)

/-- What a built-in macro expands to in a time range. -/
def form (context : Context σ) (range : TimeRange) (callee : Callee) (arguments : List Text) :
    List Piece :=
  match callee with
  | .conditionalAll =>
      if selects context arguments then [.argument 0] else [.literal Sql.always]
  | .adHocFilter => [.literal Sql.always]
  | .intervalSeconds => [.literal context.intervalSeconds.writeNumber]
  | .timeInterval =>
      [ .literal "toStartOfInterval(toDateTime(", .argument 0,
        .literal ("), INTERVAL " ++ context.intervalSeconds.writeNumber ++ " second)")]
  | .timeIntervalMillis =>
      [ .literal "toStartOfInterval(toDateTime64(", .argument 0,
        .literal (", 3), INTERVAL " ++ Numeral.write context.intervalMilliseconds ++
          " millisecond)")]
  | .timeFilter => betweenForm Sql.secondBound 0 range
  | .timeFilterMillis => betweenForm Sql.millisecondBound 0 range
  | .dateFilter => betweenForm Sql.dateBound 0 range
  | .dateTimeFilter | .dateTimeFilterShort =>
      betweenForm Sql.dateBound 0 range ++ .literal " AND " :: betweenForm Sql.secondBound 1 range
  | .toTime => [.literal (Sql.exactSecondBound range.stop)]
  | .toTimeMillis => [.literal (Sql.millisecondBound range.stop)]
  | .fromTime => [.literal (Sql.exactSecondBound range.start)]
  | .fromTimeMillis => [.literal (Sql.millisecondBound range.start)]

/-- No pieces make no text. -/
@[simp] theorem fill_nil (arguments : List Text) : fill [] arguments = [] := rfl

/-- A literal stands as it is. -/
@[simp] theorem fill_literal (text : Text) (rest : List Piece) (arguments : List Text) :
    fill (.literal text :: rest) arguments = text ++ fill rest arguments := rfl

/-- A place is taken by the argument of its index, and stays empty if there is none. -/
@[simp] theorem fill_argument (index : Nat) (rest : List Piece) (arguments : List Text) :
    fill (.argument index :: rest) arguments = arguments.getD index [] ++ fill rest arguments := rfl

/-- Pieces are filled one after the other. -/
theorem fill_append (front rest : List Piece) (arguments : List Text) :
    fill (front ++ rest) arguments = fill front arguments ++ fill rest arguments :=
  List.flatMap_append

/-- The condition between two bounds is what its form says. -/
theorem fill_betweenForm (bound : Instant → Text) (index : Nat) (range : TimeRange)
    (arguments : List Text) :
    fill (betweenForm bound index range) arguments =
      Sql.between bound (arguments.getD index []) range := by
  simp [betweenForm, Sql.between]

/-- The arguments of a call, without the blanks around them, are what its macro asks
for. -/
def Accepts (callee : Callee) (arguments : List Text) : Prop :=
  arguments.length = callee.arity ∧ ∀ argument ∈ arguments, Text.trim argument ≠ []

instance (callee : Callee) (arguments : List Text) : Decidable (callee.Accepts arguments) :=
  inferInstanceAs (Decidable (_ ∧ _))

/-- The check of the arguments gives them without the blanks around them. -/
theorem requireArguments_of_accepts {callee : Callee} {invocation : Invocation}
    (accepted : callee.Accepts invocation.arguments) :
    invocation.requireArguments callee.arity = .ok (invocation.arguments.map Text.trim) := by
  refine if_pos ⟨by simpa using accepted.1, ?_⟩
  simpa using accepted.2

/-- A call with the wrong arguments fails with an error that names its macro. -/
theorem requireArguments_of_not_accepts {callee : Callee} {invocation : Invocation}
    (refused : ¬ callee.Accepts invocation.arguments) :
    invocation.requireArguments callee.arity = .error (.arity invocation.name callee.arity) := by
  refine if_neg fun both => refused ⟨by simpa using both.1, ?_⟩
  simpa using both.2

/-- Every expansion begins with the check of its arguments. -/
theorem expand_eq_bind (callee : Callee) (sql : Text) (invocation : Invocation)
    (context : Context σ) :
    ∃ further : List Text → Expansion σ Text, callee.applier.expand sql invocation context =
      ofExcept (invocation.requireArguments callee.arity) >>= further := by
  cases callee <;> exact ⟨_, rfl⟩

/-- A call with other arguments than its macro takes is an error. -/
theorem expand_of_not_accepts {callee : Callee} {invocation : Invocation}
    (refused : ¬ callee.Accepts invocation.arguments) (sql : Text) (context : Context σ) :
    callee.applier.expand sql invocation context =
      throw (.arity invocation.name callee.arity) := by
  obtain ⟨further, checks⟩ := callee.expand_eq_bind sql invocation context
  rw [checks, requireArguments_of_not_accepts refused]
  rfl

/-- Without filters the ad-hoc filter looks at its arguments only. -/
theorem expand_adHocFilter_of_unfiltered {context : Context σ} (unfiltered : context.filters = [])
    (sql : Text) (invocation : Invocation) :
    Builtin.adHocFilter.expand sql invocation context = (do
      let _ ← ofExcept (invocation.requireArguments 0)
      return Sql.always) := by
  unfold Builtin.adHocFilter
  simp only [unfiltered, List.isEmpty_nil, ↓reduceIte]

/-- A list of two elements is a pair of them. -/
theorem exists_pair_of_length {list : List Text} (two : list.length = 2) :
    ∃ first second, list = [first, second] := by
  match list, two with
  | [first, second], _ => exact ⟨first, second, rfl⟩

/-- In a time range an accepted call expands to its form. The second argument of the
conditional has to refer to a variable, and there must be nothing to filter by. There is a
case for each macro, grouped by how many arguments it takes. -/
theorem expand_of_accepts {callee : Callee} {invocation : Invocation} {context : Context σ}
    {range : TimeRange} (ranged : context.timeRange = some range)
    (accepted : callee.Accepts invocation.arguments)
    (unfiltered : callee = .adHocFilter → context.filters = [])
    (refers : callee = .conditionalAll →
      (variableName? ((invocation.arguments.map Text.trim).getD 1 [])).isSome = true)
    (sql : Text) :
    callee.applier.expand sql invocation context =
      pure (fill (callee.form context range (invocation.arguments.map Text.trim))
        (invocation.arguments.map Text.trim)) := by
  have checked := requireArguments_of_accepts accepted
  have count : (invocation.arguments.map Text.trim).length = callee.arity := by
    simpa using accepted.1
  -- From here on only the trimmed arguments count, whose number the macro fixes.
  generalize invocation.arguments.map Text.trim = arguments at checked count refers ⊢
  have bound : ofExcept (invocation.requireArguments callee.arity) =
      (pure arguments : Expansion σ (List Text)) := by
    rw [checked]
    rfl
  cases callee with
  | conditionalAll =>
    obtain ⟨condition, reference, rfl⟩ := exists_pair_of_length count
    obtain ⟨name, known⟩ := Option.isSome_iff_exists.1 (refers rfl)
    have refersTo : variableName? reference = some name := known
    have selected : selects context [condition, reference] =
        context.isSelective reference name := by
      simp [selects, refersTo]
    refine (congrArg (· >>= _) bound).trans ?_
    rw [pure_bind]
    simp only [refersTo, form, selected]
    cases context.isSelective reference name <;> simp
  | adHocFilter =>
    refine (congrArg (· >>= _) bound).trans ?_
    rw [pure_bind, unfiltered rfl]
    rfl
  | intervalSeconds =>
    refine (congrArg (· >>= _) bound).trans ?_
    rw [pure_bind]
    simp [form]
  | timeInterval | timeIntervalMillis =>
    obtain ⟨column, rfl⟩ := List.length_eq_one_iff.1 count
    refine (congrArg (· >>= _) bound).trans ?_
    rw [pure_bind]
    simp [form]
  | timeFilter | timeFilterMillis | dateFilter =>
    obtain ⟨column, rfl⟩ := List.length_eq_one_iff.1 count
    refine (congrArg (· >>= _) bound).trans ?_
    rw [pure_bind]
    simp [form, fill_betweenForm, Sql.within, ranged]
  | dateTimeFilter | dateTimeFilterShort =>
    obtain ⟨dates, times, rfl⟩ := exists_pair_of_length count
    refine (congrArg (· >>= _) bound).trans ?_
    rw [pure_bind]
    simp [ranged, form, fill_append, fill_betweenForm]
  | toTime | toTimeMillis | fromTime | fromTimeMillis =>
    refine (congrArg (· >>= _) bound).trans ?_
    rw [pure_bind]
    simp [form, ranged]

/-- The place of an invocation does not matter to a built-in macro, unless there is
something to filter by. -/
theorem ignoresPlace {callee : Callee} {context : Context σ}
    (unfiltered : callee = .adHocFilter → context.filters = []) :
    (callee.applier : Applier σ).IgnoresPlace context := by
  rintro sql other ⟨name, start, stop, arguments⟩ ⟨otherName, otherStart, otherStop, otherArguments⟩
    sameName sameArguments
  simp only at sameName sameArguments
  subst sameName sameArguments
  cases callee with
  | adHocFilter =>
    have vacant := unfiltered rfl
    exact (expand_adHocFilter_of_unfiltered vacant _ _).trans
      (expand_adHocFilter_of_unfiltered vacant _ _).symm
  | _ => rfl

end QueryMacros.Callee
