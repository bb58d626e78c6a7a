import QueryMacros.Proofs.Builtin.Condition

/-!
# Values stay in their literals

The condition of the ad-hoc filters has one literal for each value that counts, in
the order of the filters, and each literal is read back as that value after
substitution. The text around the literals is settled before any value is looked at:
two contexts that differ in the values of their filters alone, or in substitution,
give conditions with the same text outside the literals. So no value, whatever
quotes and backslashes it is made of, can change what a query asks.
-/
namespace QueryMacros.Builtin

open Macro Sql

variable {σ : Type}

/-- The context with other filters and another substitution. -/
def revalue (context : Context σ) (filters : List AdHocFilter)
    (substitution : Option (Text → Text)) : Context σ :=
  { context with filters, substitution }

/-! ## Literals -/

/-- The condition on a filter has one literal, the substituted value, or none if the
filter has no value. -/
theorem literals_partTokens (context : Context σ) (column : Text) (filter : AdHocFilter) :
    literals (partTokens context column filter) = (filter.value.map context.substitute).toList := by
  unfold partTokens
  cases valued : filter.value with
  | some value =>
    rw [literals_append, literals_outside]
    rfl
  | none =>
    cases nullComparison column filter.operator with
    | ok part => exact literals_outside part
    | error fault => rfl

/-- The literals of joined conditions are those of the parts, in order. -/
theorem literals_intercalate (parts : List (List Token)) :
    literals (separatorTokens.intercalate parts) = parts.flatMap literals := by
  have between : literals separatorTokens = [] := literals_outside _
  induction parts with
  | nil => rfl
  | cons part parts inductionHypothesis =>
    cases parts with
    | nil => simp
    | cons next parts =>
      rw [List.intercalate_cons_cons, literals_append, literals_append, between,
        inductionHypothesis, List.append_nil]
      rfl

/-- The literals of the whole condition are the values of the filters that count. -/
theorem literals_conditionTokens (context : Context σ) (counted : List (Text × AdHocFilter)) :
    literals (conditionTokens context counted) =
      counted.filterMap fun pair => pair.2.value.map context.substitute := by
  have parts : (counted.map fun pair => partTokens context pair.1 pair.2).flatMap literals =
      counted.filterMap fun pair => pair.2.value.map context.substitute := by
    rw [List.flatMap_map]
    induction counted with
    | nil => rfl
    | cons pair counted inductionHypothesis =>
      obtain ⟨column, filter⟩ := pair
      rw [List.flatMap_cons, List.filterMap_cons, inductionHypothesis, literals_partTokens]
      cases filter.value with
      | none => rfl
      | some value => rfl
  unfold conditionTokens
  split
  · next vacant =>
    obtain rfl := List.isEmpty_iff.1 vacant
    exact literals_outside _
  · exact (literals_intercalate _).trans parts

/-! ## Outlines -/

/-- A filter that counts, apart from its value. -/
def countedShape (pair : Text × AdHocFilter) : Text × Text × FilterOperator × Bool :=
  (pair.1, pair.2.shape)

/-- Which filters count, and with which columns, does not depend on any value. -/
theorem keptFilters_shape (table : Text) (columns : List Text) (filters : List AdHocFilter) :
    (keptFilters table columns filters).map countedShape =
      (filters.map AdHocFilter.shape).filterMap fun shape =>
        (filterColumn? table ⟨shape.1, shape.2.1, none⟩).bind fun column =>
          if columns.contains column then some (column, shape) else none := by
  unfold keptFilters
  rw [List.map_filterMap, List.filterMap_map]
  apply congrArg (filters.filterMap ·)
  funext filter
  have sameColumn : filterColumn? table filter =
      filterColumn? table ⟨filter.shape.1, filter.shape.2.1, none⟩ := rfl
  rw [Function.comp_apply, ← sameColumn]
  cases filterColumn? table filter with
  | none => rfl
  | some column =>
    simp only [Option.bind_eq_bind, Option.bind_some]
    split
    · rfl
    · rfl

/-- The outline of a condition follows from the column, the operator, and whether there
is a value. -/
theorem outline_partTokens (context other : Context σ) (column : Text)
    {filter revalued : AdHocFilter} (alike : revalued.shape = filter.shape) :
    outline (partTokens other column revalued) = outline (partTokens context column filter) := by
  obtain ⟨key, operator, value⟩ := filter
  obtain ⟨otherKey, otherOperator, otherValue⟩ := revalued
  simp only [AdHocFilter.shape, Prod.mk.injEq] at alike
  obtain ⟨rfl, rfl, sameKind⟩ := alike
  cases value with
  | none =>
    obtain rfl : otherValue = none := by simpa using sameKind
    unfold partTokens
    cases nullComparison column otherOperator with
    | ok part => rfl
    | error fault => rfl
  | some value =>
    obtain ⟨otherValue, rfl⟩ := Option.isSome_iff_exists.1 sameKind
    simp only [partTokens, outline_append]
    rfl

/-- Whether a filter has a condition follows from the same. -/
theorem filterCondition_ok (context other : Context σ) {column part : Text}
    {filter revalued : AdHocFilter} (alike : revalued.shape = filter.shape)
    (rendered : filterCondition context column filter = .ok part) :
    ∃ otherPart, filterCondition other column revalued = .ok otherPart := by
  obtain ⟨key, operator, value⟩ := filter
  obtain ⟨otherKey, otherOperator, otherValue⟩ := revalued
  simp only [AdHocFilter.shape, Prod.mk.injEq] at alike
  obtain ⟨rfl, rfl, sameKind⟩ := alike
  cases value with
  | none =>
    obtain rfl : otherValue = none := by simpa using sameKind
    exact ⟨part, rendered⟩
  | some value =>
    obtain ⟨otherValue, rfl⟩ := Option.isSome_iff_exists.1 sameKind
    exact ⟨_, rfl⟩

/-- The outline of joined conditions is made of their outlines, joined. -/
theorem outline_intercalate (parts : List (List Token)) :
    outline (separatorTokens.intercalate parts) =
      (outline separatorTokens).intercalate (parts.map outline) := by
  induction parts with
  | nil => rfl
  | cons part parts inductionHypothesis =>
    cases parts with
    | nil => simp
    | cons next parts =>
      rw [List.intercalate_cons_cons, outline_append, outline_append, inductionHypothesis]
      exact List.intercalate_cons_cons.symm

/-- Filters of one shape have conditions of one outline, whatever their values are and
however they are substituted. -/
theorem outline_parts (context other : Context σ) {counted recounted : List (Text × AdHocFilter)}
    (alike : recounted.map countedShape = counted.map countedShape) :
    recounted.map (fun pair => outline (partTokens other pair.1 pair.2)) =
      counted.map fun pair => outline (partTokens context pair.1 pair.2) := by
  induction counted generalizing recounted with
  | nil =>
    obtain rfl : recounted = [] := List.map_eq_nil_iff.1 alike
    rfl
  | cons pair counted inductionHypothesis =>
    obtain ⟨repair, recounted, rfl, same, sameOthers⟩ := List.map_eq_cons_iff.1 alike
    obtain ⟨sameColumn, sameShape⟩ := Prod.mk.inj same
    rw [List.map_cons, List.map_cons, inductionHypothesis sameOthers, sameColumn,
      outline_partTokens context other pair.1 sameShape]

/-- The outline of the whole condition follows from the filters apart from their
values. -/
theorem outline_conditionTokens (context other : Context σ)
    {counted recounted : List (Text × AdHocFilter)}
    (alike : recounted.map countedShape = counted.map countedShape) :
    outline (conditionTokens other recounted) = outline (conditionTokens context counted) := by
  have sameParts := outline_parts context other alike
  have sameCount : recounted.isEmpty = counted.isEmpty := by
    have vacant := congrArg List.isEmpty alike
    simpa only [List.isEmpty_map] using vacant
  unfold conditionTokens
  rw [sameCount]
  split
  · rfl
  · rw [outline_intercalate, outline_intercalate, List.map_map, List.map_map]
    exact congrArg _ sameParts

/-- Whether all filters have conditions depends on their shapes only. -/
theorem conditions_ok (context other : Context σ) {counted recounted : List (Text × AdHocFilter)}
    {parts : List Text} (alike : recounted.map countedShape = counted.map countedShape)
    (rendered : conditions context counted = .ok parts) :
    ∃ otherParts, conditions other recounted = .ok otherParts := by
  induction counted generalizing recounted parts with
  | nil =>
    obtain rfl : recounted = [] := List.map_eq_nil_iff.1 alike
    exact ⟨[], rfl⟩
  | cons pair counted inductionHypothesis =>
    obtain ⟨repair, recounted, rfl, same, sameOthers⟩ := List.map_eq_cons_iff.1 alike
    obtain ⟨column, filter⟩ := pair
    obtain ⟨otherColumn, revalued⟩ := repair
    obtain ⟨rfl, sameShape⟩ := Prod.mk.inj same
    obtain ⟨part, others, renderedPart, renderedOthers, rfl⟩ := conditions_cons.1 rendered
    obtain ⟨otherPart, writtenPart⟩ := filterCondition_ok context other sameShape renderedPart
    obtain ⟨otherOthers, writtenOthers⟩ := inductionHypothesis sameOthers renderedOthers
    exact ⟨_, conditions_cons.2 ⟨_, _, writtenPart, writtenOthers, rfl⟩⟩

/-! ## The condition of a query -/

/-- Which filters count for a query does not depend on their values. -/
theorem kept_revalue_shape (context : Context σ) (sql : Text) (state : σ)
    {filters : List AdHocFilter} (substitution : Option (Text → Text))
    (alike : filters.map AdHocFilter.shape = context.filters.map AdHocFilter.shape) :
    (kept (revalue context filters substitution) sql state).map countedShape =
      (kept context sql state).map countedShape := by
  have sameLookup : lookupKeys (revalue context filters substitution) sql state =
      lookupKeys context sql state := rfl
  unfold kept
  rw [sameLookup]
  cases lookupKeys context sql state with
  | none => rfl
  | some found => exact (keptFilters_shape _ _ _).trans (alike ▸ (keptFilters_shape _ _ _).symm)

/-- With other values and another substitution an expansion still succeeds. -/
theorem expand_adHocFilter_revalue {context : Context σ} {sql text : Text}
    {invocation : Invocation} {state final : σ} {filters : List AdHocFilter}
    (substitution : Option (Text → Text))
    (alike : filters.map AdHocFilter.shape = context.filters.map AdHocFilter.shape)
    (ran : adHocFilter.expand sql invocation context state = (.ok text, final)) :
    ∃ other, adHocFilter.expand sql invocation (revalue context filters substitution) state =
      (.ok other, final) := by
  obtain ⟨checked, outcome⟩ := expand_adHocFilter_eq_ok.1 ran
  rcases outcome with ⟨unfiltered, -, kept⟩ | ⟨filtered, table, keys, parts, looked, rendered, -⟩
  · have vacant : filters = [] := by
      rw [unfiltered] at alike
      exact List.map_eq_nil_iff.1 alike
    exact ⟨_, expand_adHocFilter_eq_ok.2 ⟨checked, .inl ⟨vacant, rfl, kept⟩⟩⟩
  · have remain : filters ≠ [] := by
      rintro rfl
      exact filtered (List.map_eq_nil_iff.1 alike.symm)
    have sameShape : (keptFilters table (keys.map (·.value)) filters).map countedShape =
        (keptFilters table (keys.map (·.value)) context.filters).map countedShape := by
      rw [keptFilters_shape, keptFilters_shape, alike]
    obtain ⟨otherParts, written⟩ :=
      conditions_ok context (revalue context filters substitution) sameShape rendered
    exact ⟨_, expand_adHocFilter_eq_ok.2
      ⟨checked, .inr ⟨remain, table, keys, otherParts, looked, written, rfl⟩⟩⟩

/-- Where the ad-hoc filter succeeds and no column that counts has a quote, no literal of
the condition is left open, its literals are the values of the filters that count, after
substitution, and other values or another substitution leave all of the condition outside
the literals as it is. The shapes of the filters decide which of them count and where
literals stand; their values only fill these. -/
theorem expand_adHocFilter_literals {context : Context σ} {sql text : Text}
    {invocation : Invocation} {state final : σ}
    (ran : adHocFilter.expand sql invocation context state = (.ok text, final))
    (unquoted : ∀ pair ∈ kept context sql state, '\'' ∉ pair.1) :
    ∃ tokens, tokens? text = some tokens ∧
      literals tokens = ((kept context sql state).filterMap fun pair =>
        pair.2.value.map context.substitute) ∧
      ∀ filters substitution,
        filters.map AdHocFilter.shape = context.filters.map AdHocFilter.shape →
          ∃ other otherTokens,
            adHocFilter.expand sql invocation (revalue context filters substitution) state =
                (.ok other, final) ∧
              tokens? other = some otherTokens ∧ outline otherTokens = outline tokens := by
  obtain ⟨parts, rendered, rfl⟩ := expand_adHocFilter_conditions ran
  refine ⟨_, tokens?_conjunction rendered unquoted, literals_conditionTokens _ _, ?_⟩
  intro filters substitution alike
  have sameShape := kept_revalue_shape context sql state substitution alike
  obtain ⟨other, reran⟩ := expand_adHocFilter_revalue substitution alike ran
  obtain ⟨otherParts, written, rfl⟩ := expand_adHocFilter_conditions reran
  refine ⟨_, _, reran, tokens?_conjunction written ?_, outline_conditionTokens _ _ sameShape⟩
  intro pair member
  -- The columns are the same, so they have no quotes either.
  have sameColumns := congrArg (List.map Prod.fst) sameShape
  rw [List.map_map, List.map_map] at sameColumns
  have column : pair.1 ∈ (kept context sql state).map (Prod.fst ∘ countedShape) :=
    sameColumns ▸ List.mem_map_of_mem member
  obtain ⟨original, counted, same⟩ := List.mem_map.1 column
  exact same ▸ unquoted original counted

/-- A context whose filters have a value that tries to close its literal, no value, and a
value of quotes and a backslash only. -/
def closing : Context Unit :=
  { (Context.empty : Context Unit) with
    filters := [⟨"c", .equal, some "\\' OR 1=1 --"⟩, ⟨"c", .notEqual, none⟩,
      ⟨"t.d", .like, some "''\\"⟩]
    keys := some fun _ => pure [⟨"c", none⟩, ⟨"d", none⟩]
    table := fun _ => some "t" }

/-- The values that try to close their literals are read back as they are. -/
theorem expand_adHocFilter_literals_closing :
    ∃ (text : Text) (tokens : List Token),
      adHocFilter.expand ("SELECT 1 FROM t WHERE $__adHocFilter()" : String)
          ⟨adHocFilterName, 22, 38, []⟩ closing () = (.ok text, ()) ∧
        (∀ pair ∈ kept closing ("SELECT 1 FROM t WHERE $__adHocFilter()" : String) (),
          '\'' ∉ pair.1) ∧
        tokens? text = some tokens ∧
        literals tokens = [("\\' OR 1=1 --" : String).toList, ("''\\" : String).toList] := by
  have ran : adHocFilter.expand ("SELECT 1 FROM t WHERE $__adHocFilter()" : String)
        ⟨adHocFilterName, 22, 38, []⟩ closing () =
      (.ok ("c = '\\\\'' OR 1=1 --' AND c IS NOT NULL AND toString(d) LIKE '''''\\\\'" : String),
        ()) := by
    rfl
  have unquoted : ∀ pair ∈ kept closing ("SELECT 1 FROM t WHERE $__adHocFilter()" : String) (),
      '\'' ∉ pair.1 := by
    decide
  obtain ⟨tokens, read, values, -⟩ := expand_adHocFilter_literals ran unquoted
  exact ⟨_, tokens, ran, unquoted, read, values.trans (by rfl)⟩

end QueryMacros.Builtin
