import Mathlib.Data.List.Forall2
import QueryMacros.Proofs.Builtin.Condition
import QueryMacros.Proofs.Builtin.WrittenCondition

/-!
# Which filters count

A filter counts if its key names a column of the table that the query reads from. The
key is the column by itself, or the column behind the name of the table, with or without
the part of that name up to its last dot; and the column has to be among those that the
table has. Every filter that counts puts its condition on such a column, in the order of
the filters. The one fault is a filter that counts and compares NULL otherwise than by
equality, and the first of these is named. A filter that does not count is without
effect, wherever it stands and whatever it compares.
-/
namespace QueryMacros.Builtin

open Macro Metadata

variable {σ : Type}

/-! ## Keys -/

/-- The name of a table, or the part of it behind its last dot. -/
def Qualifies (table qualifier : Text) : Prop :=
  qualifier = table ∨ '.' ∉ qualifier ∧ ∃ database, table = database ++ '.' :: qualifier

/-- How a key names a column of a table: without a dot it is the column, and else the
column is what follows its last dot, behind the table. -/
inductive NamesColumn (table : Text) : Text → Text → Prop where
  | plain {column : Text} (unqualified : '.' ∉ column) : NamesColumn table column column
  | qualified {qualifier column : Text} (unqualified : '.' ∉ column)
      (qualifies : Qualifies table qualifier) :
      NamesColumn table (qualifier ++ '.' :: column) column

/-- What may stand in front of a dotted key is the name of the table or, split off at its
last dot, the end of that name. -/
theorem qualifies_iff {table qualifier : Text} :
    Qualifies table qualifier ↔
      qualifier = table ∨ qualifier = ((splitQualified? table).map Prod.snd).getD table := by
  unfold Qualifies
  cases split : splitQualified? table with
  | none =>
    have unqualified := splitQualified?_eq_none_iff.1 split
    have whole : ∀ database, table ≠ database ++ '.' :: qualifier := by
      rintro database rfl
      simp at unqualified
    simp [whole]
  | some parts =>
    obtain ⟨database, bare⟩ := parts
    simp only [Option.map_some, Option.getD_some]
    refine or_congr_right ⟨?_, ?_⟩
    · rintro ⟨clear, front, same⟩
      have again := splitQualified?_eq_some_iff.2 ⟨same, clear⟩
      exact (congrArg Prod.snd (Option.some.inj (again.symm.trans split)))
    · rintro rfl
      obtain ⟨same, clear⟩ := splitQualified?_eq_some_iff.1 split
      exact ⟨clear, database, same⟩

/-- A filter is on the column that its key names, if there is one. A key without a dot is
a column; any other is taken apart at its last dot, and in no other way. -/
theorem filterColumn?_eq_some_iff {table column : Text} {filter : AdHocFilter} :
    filterColumn? table filter = some column ↔ NamesColumn table filter.key column := by
  unfold filterColumn?
  cases split : splitQualified? filter.key with
  | none =>
    have unqualified := splitQualified?_eq_none_iff.1 split
    constructor
    · intro same
      rw [← Option.some.inj same]
      exact .plain unqualified
    · intro names
      generalize filter.key = key at names unqualified
      cases names with
      | plain => rfl
      | qualified => simp at unqualified
  | some parts =>
    obtain ⟨qualifier, named⟩ := parts
    -- The last dot is the only place where the key can be taken apart.
    obtain ⟨written, clear⟩ := splitQualified?_eq_some_iff.1 split
    simp only [← qualifies_iff, Option.ite_none_right_eq_some, Option.some.injEq]
    constructor
    · rintro ⟨qualifies, rfl⟩
      rw [written]
      exact .qualified clear qualifies
    · intro names
      generalize filter.key = key at names written split
      cases names with
      | plain unqualified =>
        rw [written] at unqualified
        simp at unqualified
      | qualified unqualified qualifies =>
        rw [splitQualified?_eq_some_iff.2 ⟨rfl, unqualified⟩] at split
        obtain ⟨rfl, rfl⟩ := Prod.mk.inj (Option.some.inj split)
        exact ⟨qualifies, rfl⟩

/-! ## Filters that count -/

/-- A filter that counts for a table with the given columns, and the column that it is
on. -/
structure Counts (table : Text) (columns : List Text) (filter : AdHocFilter) (column : Text) :
    Prop where
  names : NamesColumn table filter.key column
  allowed : column ∈ columns

/-- A filter that counts for a table with the given columns. -/
def Allowed (table : Text) (columns : List Text) (filter : AdHocFilter) : Prop :=
  ∃ column, Counts table columns filter column

/-- A filter counts just when the column that is found for it is among those of the
table. -/
theorem allowed_iff {table : Text} {columns : List Text} {filter : AdHocFilter} :
    Allowed table columns filter ↔ (filterColumn? table filter).any columns.contains = true := by
  simp only [Option.any_eq_true, List.contains_iff_mem, filterColumn?_eq_some_iff]
  constructor
  · rintro ⟨column, names, allowed⟩
    exact ⟨column, names, allowed⟩
  · rintro ⟨column, names, allowed⟩
    exact ⟨column, names, allowed⟩

instance (table : Text) (columns : List Text) : DecidablePred (Allowed table columns) :=
  fun _ => decidable_of_iff _ allowed_iff.symm

section Kept

variable {table : Text} {columns : List Text}

/-- A filter that counts is kept, in its place and with its column. -/
theorem keptFilters_cons_of_counts {filter : AdHocFilter} {column : Text}
    (counts : Counts table columns filter column) (filters : List AdHocFilter) :
    keptFilters table columns (filter :: filters) =
      (column, filter) :: keptFilters table columns filters := by
  have named := filterColumn?_eq_some_iff.2 counts.names
  simp [keptFilters, named, counts.allowed]

/-- A filter that does not count leaves no trace among those that are kept. -/
theorem keptFilters_cons_of_not_allowed {filter : AdHocFilter}
    (dropped : ¬ Allowed table columns filter) (filters : List AdHocFilter) :
    keptFilters table columns (filter :: filters) = keptFilters table columns filters := by
  rw [allowed_iff] at dropped
  rw [keptFilters, List.filterMap_cons]
  cases named : filterColumn? table filter with
  | none => rfl
  | some column =>
    have missing : ¬ columns.contains column = true := by simpa [named] using dropped
    simp only [Option.bind_eq_bind, Option.bind_some, if_neg missing]
    rfl

/-- The filters that are kept are those that count, in order. -/
theorem keptFilters_filters (filters : List AdHocFilter) :
    (keptFilters table columns filters).map Prod.snd =
      filters.filter fun filter => Allowed table columns filter := by
  induction filters with
  | nil => rfl
  | cons filter filters inductionHypothesis =>
    by_cases allowed : Allowed table columns filter
    · have ⟨column, counts⟩ := allowed
      rw [keptFilters_cons_of_counts counts, List.map_cons, inductionHypothesis,
        List.filter_cons_of_pos (by simpa using allowed)]
    · rw [keptFilters_cons_of_not_allowed allowed, inductionHypothesis,
        List.filter_cons_of_neg (by simpa using allowed)]

/-- Each of them is kept with the column that it counts for. -/
theorem counts_of_mem_keptFilters {filters : List AdHocFilter} {pair : Text × AdHocFilter}
    (kept : pair ∈ keptFilters table columns filters) : Counts table columns pair.2 pair.1 := by
  induction filters with
  | nil => cases kept
  | cons filter filters inductionHypothesis =>
    by_cases allowed : Allowed table columns filter
    · obtain ⟨column, counts⟩ := allowed
      rw [keptFilters_cons_of_counts counts] at kept
      rcases List.mem_cons.1 kept with rfl | kept
      · exact counts
      · exact inductionHypothesis kept
    · rw [keptFilters_cons_of_not_allowed allowed] at kept
      exact inductionHypothesis kept

/-- Filters that do not count make no difference. -/
theorem keptFilters_filter (filters : List AdHocFilter) :
    keptFilters table columns (filters.filter fun filter => Allowed table columns filter) =
      keptFilters table columns filters := by
  induction filters with
  | nil => rfl
  | cons filter filters inductionHypothesis =>
    by_cases allowed : Allowed table columns filter
    · have ⟨column, counts⟩ := allowed
      rw [List.filter_cons_of_pos (by simpa using allowed), keptFilters_cons_of_counts counts,
        keptFilters_cons_of_counts counts, inductionHypothesis]
    · rw [List.filter_cons_of_neg (by simpa using allowed),
        keptFilters_cons_of_not_allowed allowed, inductionHypothesis]

end Kept

/-! ## Conditions -/

/-- A filter without a condition: it compares NULL otherwise than by equality. -/
def Refused (filter : AdHocFilter) : Prop :=
  filter.value = none ∧ filter.operator ≠ .equal ∧ filter.operator ≠ .notEqual

instance : DecidablePred Refused := fun _ => inferInstanceAs (Decidable (_ ∧ _))

/-- A refused filter has no condition, and the error names its column and operator. -/
theorem filterCondition_of_refused {context : Context σ} {column : Text} {filter : AdHocFilter}
    (refused : Refused filter) :
    filterCondition context column filter =
      .error (.invalidNullOperator column filter.operator) := by
  obtain ⟨key, operator, value⟩ := filter
  obtain ⟨rfl, notEqual, notUnequal⟩ := refused
  cases operator with
  | equal => exact absurd rfl notEqual
  | notEqual => exact absurd rfl notUnequal
  | less | greater | lessOrEqual | greaterOrEqual | like | notLike => rfl

/-- Any other filter has a condition, whatever its column and its value are. -/
theorem filterCondition_of_not_refused (context : Context σ) (column : Text)
    {filter : AdHocFilter} (accepted : ¬ Refused filter) :
    ∃ part, filterCondition context column filter = .ok part := by
  obtain ⟨key, operator, value⟩ := filter
  cases value with
  | some value => exact ⟨_, rfl⟩
  | none =>
    cases operator with
    | equal | notEqual => exact ⟨_, rfl⟩
    | less | greater | lessOrEqual | greaterOrEqual | like | notLike =>
      exact absurd ⟨rfl, by simp, by simp⟩ accepted

/-- Filters are all accepted, or there is a first one that is refused. -/
theorem accepted_or_first_refused (counted : List (Text × AdHocFilter)) :
    (∀ pair ∈ counted, ¬ Refused pair.2) ∨
      ∃ front column filter back, counted = front ++ (column, filter) :: back ∧
        (∀ pair ∈ front, ¬ Refused pair.2) ∧ Refused filter := by
  induction counted with
  | nil => exact .inl (by simp)
  | cons pair counted inductionHypothesis =>
    by_cases refused : Refused pair.2
    · exact .inr ⟨[], pair.1, pair.2, counted, rfl, by simp, refused⟩
    · rcases inductionHypothesis with accepted | ⟨front, column, filter, back, rfl, accepted, later⟩
      · exact .inl (List.forall_mem_cons.2 ⟨refused, accepted⟩)
      · exact .inr ⟨pair :: front, column, filter, back, rfl,
          List.forall_mem_cons.2 ⟨refused, accepted⟩, later⟩

/-- The texts that are written for filters that count, each on its column and in order. -/
def AllWrittenAs (substitute : Text → Text) (counted : List (Text × AdHocFilter))
    (parts : List Text) : Prop :=
  List.Forall₂ (fun pair part => WrittenAs substitute pair.1 pair.2 part) counted parts

/-- Without a refusal every filter has the condition that is written for it, in order. -/
theorem conditions_of_accepted (context : Context σ) {counted : List (Text × AdHocFilter)}
    (accepted : ∀ pair ∈ counted, ¬ Refused pair.2) :
    ∃ parts, conditions context counted = .ok parts ∧
      AllWrittenAs context.substitute counted parts := by
  induction counted with
  | nil => exact ⟨[], rfl, .nil⟩
  | cons pair counted inductionHypothesis =>
    obtain ⟨column, filter⟩ := pair
    obtain ⟨here, others⟩ := List.forall_mem_cons.1 accepted
    obtain ⟨part, rendered⟩ := filterCondition_of_not_refused context column here
    obtain ⟨parts, renderedOthers, written⟩ := inductionHypothesis others
    refine ⟨part :: parts, conditions_cons.2 ⟨part, parts, rendered, renderedOthers, rfl⟩, ?_⟩
    exact .cons (filterCondition_eq_ok_iff.1 rendered) written

/-- The first refusal is the fault of the whole. -/
theorem conditions_of_refused {context : Context σ} {front back : List (Text × AdHocFilter)}
    {column : Text} {filter : AdHocFilter} (accepted : ∀ pair ∈ front, ¬ Refused pair.2)
    (refused : Refused filter) :
    conditions context (front ++ (column, filter) :: back) =
      .error (.invalidNullOperator column filter.operator) := by
  induction front with
  | nil =>
    rw [List.nil_append, conditions_cons_eq, filterCondition_of_refused refused]
    rfl
  | cons pair front inductionHypothesis =>
    obtain ⟨here, others⟩ := List.forall_mem_cons.1 accepted
    obtain ⟨part, rendered⟩ := filterCondition_of_not_refused context pair.1 here
    rw [List.cons_append, conditions_cons_eq, rendered, inductionHypothesis others]
    rfl

/-- A refusal is the only fault. -/
theorem exists_fault_iff_refused (context : Context σ) (counted : List (Text × AdHocFilter)) :
    (∃ error, conditions context counted = .error error) ↔ ∃ pair ∈ counted, Refused pair.2 := by
  rcases accepted_or_first_refused counted with
    accepted | ⟨front, column, filter, back, rfl, accepted, refused⟩
  · obtain ⟨parts, rendered, -⟩ := conditions_of_accepted context accepted
    constructor
    · rintro ⟨error, failed⟩
      rw [rendered] at failed
      cases failed
    · rintro ⟨pair, kept, refused⟩
      exact absurd refused (accepted pair kept)
  · have member : (column, filter) ∈ front ++ (column, filter) :: back :=
      List.mem_append_right _ List.mem_cons_self
    exact ⟨fun _ => ⟨_, member, refused⟩, fun _ => ⟨_, conditions_of_refused accepted refused⟩⟩

/-- Conditions are joined, or replaced by the one that always holds where no filter
counts. -/
theorem conjunction_of_counted {substitute : Text → Text}
    {counted : List (Text × AdHocFilter)} {parts : List Text}
    (written : AllWrittenAs substitute counted parts) :
    conjunction parts =
      if counted = [] then ("1=1" : String).toList
      else (" AND " : String).toList.intercalate parts := by
  cases written with
  | nil => rfl
  | cons _ _ => rfl

/-! ## Expansions -/

/-- Where there are filters and the keys of the table are found, an expansion is the
conditions on the filters that are kept, or the first fault among them. -/
theorem expand_adHocFilter_eq {context : Context σ} {sql table : Text} {invocation : Invocation}
    {lookup : Text → Lookup σ (List TableKey)} {keys : List TableKey} {state final : σ}
    (bare : invocation.arguments = []) (filtered : context.filters ≠ [])
    (named : context.table sql = some table) (resolver : context.keys = some lookup)
    (resolved : lookup table state = (.ok keys, final)) :
    adHocFilter.expand sql invocation context state =
      ((conditions context (keptFilters table (keys.map (·.value)) context.filters)).map
        conjunction, final) := by
  have checked : (ofExcept (invocation.requireArguments 0) : Expansion σ (List Text)) state =
      (.ok [], state) := by
    refine Expansion.ofExcept_eq_ok.2 ⟨?_, rfl⟩
    simp [Invocation.requireArguments, bare]
  have adapted : ((lookup table).adapt fun fault => Error.unresolvableTable table fault :
      Expansion σ (List TableKey)) state = (.ok keys, final) := Expansion.adapt_eq_ok.2 resolved
  refine (Expansion.bind_of_ok checked).trans ?_
  rw [if_neg (by simpa using filtered), named, resolver]
  refine (Expansion.bind_of_ok adapted).trans ?_
  change (ofExcept (conditions context (keptFilters table (keys.map (·.value)) context.filters)) >>=
    fun parts => pure (conjunction parts) : Expansion σ Text) final = _
  cases conditions context (keptFilters table (keys.map (·.value)) context.filters) with
  | ok parts => rfl
  | error fault => rfl

/-- Where there are filters, the query has a table and the table its keys, the filters
that count are exactly those whose key names one of these keys. An expansion fails
exactly if one of them compares NULL otherwise than by equality, with the first of these
as the fault. Else each of them is written as a condition on its key, and the expansion is
these conditions in order, or the one that always holds if there are none. And it depends on
no other filter: any filters of which the same ones count have the same expansion. -/
theorem expand_adHocFilter_allowList {context : Context σ} {sql table : Text}
    {invocation : Invocation} {lookup : Text → Lookup σ (List TableKey)} {keys : List TableKey}
    {state final : σ} (bare : invocation.arguments = []) (filtered : context.filters ≠ [])
    (named : context.table sql = some table) (resolver : context.keys = some lookup)
    (resolved : lookup table state = (.ok keys, final)) :
    let columns := keys.map (·.value)
    ∃ counted : List (Text × AdHocFilter),
      counted.map Prod.snd = context.filters.filter (fun filter => Allowed table columns filter) ∧
      (∀ pair ∈ counted, Counts table columns pair.2 pair.1) ∧
      ((∃ error after, adHocFilter.expand sql invocation context state = (.error error, after)) ↔
        ∃ pair ∈ counted, Refused pair.2) ∧
      (∀ front column filter back, counted = front ++ (column, filter) :: back →
        (∀ pair ∈ front, ¬ Refused pair.2) → Refused filter →
        adHocFilter.expand sql invocation context state =
          (.error (.invalidNullOperator column filter.operator), final)) ∧
      ((∀ pair ∈ counted, ¬ Refused pair.2) → ∃ parts,
        AllWrittenAs context.substitute counted parts ∧
        adHocFilter.expand sql invocation context state =
          (.ok (if counted = [] then ("1=1" : String).toList
            else (" AND " : String).toList.intercalate parts), final)) ∧
      ∀ filters, filters ≠ [] →
        filters.filter (fun filter => Allowed table columns filter) =
            context.filters.filter (fun filter => Allowed table columns filter) →
          adHocFilter.expand sql invocation { context with filters } state =
            adHocFilter.expand sql invocation context state := by
  intro columns
  have ran := expand_adHocFilter_eq bare filtered named resolver resolved
  have fails : ∀ front column filter back,
      keptFilters table columns context.filters = front ++ (column, filter) :: back →
        (∀ pair ∈ front, ¬ Refused pair.2) → Refused filter →
          adHocFilter.expand sql invocation context state =
            (.error (.invalidNullOperator column filter.operator), final) := by
    intro front column filter back split accepted refused
    rw [ran, split, conditions_of_refused accepted refused]
    rfl
  refine ⟨keptFilters table columns context.filters, keptFilters_filters _,
    fun pair kept => counts_of_mem_keptFilters kept, ?_, fails, ?_, ?_⟩
  · rw [← exists_fault_iff_refused context, ran]
    cases conditions context (keptFilters table columns context.filters) with
    | ok parts =>
      constructor
      · rintro ⟨error, after, failed⟩
        cases failed
      · rintro ⟨error, failed⟩
        cases failed
    | error fault => exact ⟨fun _ => ⟨fault, rfl⟩, fun _ => ⟨fault, final, rfl⟩⟩
  · intro accepted
    obtain ⟨parts, rendered, written⟩ := conditions_of_accepted context accepted
    refine ⟨parts, written, ran.trans ?_⟩
    rw [rendered, ← conjunction_of_counted written]
    rfl
  · intro filters remaining sameFilters
    -- Filters that do not count are left out before anything else is done with them.
    have rerun : adHocFilter.expand sql invocation { context with filters } state = _ :=
      expand_adHocFilter_eq bare remaining named resolver resolved
    have sameKept : keptFilters table columns filters =
        keptFilters table columns context.filters := by
      rw [← keptFilters_filter filters, sameFilters, keptFilters_filter]
    rw [rerun, ran]
    change ((conditions context (keptFilters table columns filters)).map conjunction, final) = _
    rw [sameKept]

/-- A context with two filters that do not count and would be refused, one that counts,
and two that count and are refused. -/
def guarded : Context Unit :=
  { (Context.empty : Context Unit) with
    filters := [⟨"secret", .like, none⟩, ⟨"other.c", .less, none⟩, ⟨"t.c", .like, some "it's"⟩,
      ⟨"d", .greater, none⟩, ⟨"db.t.c", .less, none⟩]
    keys := some fun _ => pure [⟨"c", none⟩, ⟨"d", none⟩]
    table := fun _ => some "db.t" }

/-- Filters for the same table, of which three count and are accepted: a pattern with a quote
in it, a comparison with NULL and one by a sign. -/
def acceptedFilters : List AdHocFilter :=
  [⟨"secret", .like, none⟩, ⟨"t.c", .notLike, some "it's"⟩, ⟨"db.t.d", .notEqual, none⟩,
    ⟨"other.c", .less, none⟩, ⟨"c", .greaterOrEqual, some "5"⟩]

/-- A query on the table of that context. -/
def guardedQuery : Text := "SELECT 1 FROM db.t WHERE $__adHocFilter()"

/-- The call in that query. -/
def guardedCall : Invocation := ⟨adHocFilterName, 25, 41, []⟩

/-- A filter that counts is refused, and those that do not count make no difference. Where all
that count are accepted, each is written on its column. -/
theorem expand_adHocFilter_allowList_guarded :
    guardedCall.arguments = [] ∧ guarded.filters ≠ [] ∧
      guarded.table guardedQuery = some ("db.t" : String).toList ∧
      (∃ error after, adHocFilter.expand guardedQuery guardedCall guarded () =
        (.error error, after)) ∧
      adHocFilter.expand guardedQuery guardedCall
          { guarded with filters := guarded.filters.drop 2 } () =
        adHocFilter.expand guardedQuery guardedCall guarded () ∧
      ∃ counted parts,
        counted.map Prod.snd = [acceptedFilters[1], acceptedFilters[2], acceptedFilters[4]] ∧
        AllWrittenAs id counted parts ∧
        adHocFilter.expand guardedQuery guardedCall
            { guarded with filters := acceptedFilters } () =
          (.ok ((" AND " : String).toList.intercalate parts), ()) ∧
        (" AND " : String).toList.intercalate parts =
          ("toString(c) NOT LIKE 'it''s' AND d IS NOT NULL AND c >= '5'" : String).toList := by
  have filtered : guarded.filters ≠ [] := by decide
  obtain ⟨counted, exactly, -, fails, -, -, others⟩ :=
    @expand_adHocFilter_allowList Unit guarded guardedQuery ("db.t" : String).toList guardedCall
      _ _ () () rfl filtered rfl rfl rfl
  have counts : (⟨"d", .greater, none⟩ : AdHocFilter) ∈ counted.map Prod.snd := by
    rw [exactly]
    decide
  obtain ⟨pair, member, same⟩ := List.mem_map.1 counts
  have refused : Refused pair.2 := by
    rw [same]
    decide
  refine ⟨rfl, filtered, rfl, fails.2 ⟨pair, member, refused⟩, others _ (by decide) (by decide), ?_⟩
  obtain ⟨counted, exactly, -, -, -, succeeds, -⟩ :=
    @expand_adHocFilter_allowList Unit { guarded with filters := acceptedFilters } guardedQuery
      ("db.t" : String).toList guardedCall _ _ () () rfl (by decide) rfl rfl rfl
  have three : counted.map Prod.snd =
      [acceptedFilters[1], acceptedFilters[2], acceptedFilters[4]] := exactly.trans (by decide)
  have each : ∀ filter ∈ counted.map Prod.snd, ¬ Refused filter := by
    rw [three]
    decide
  have accepted : ∀ pair ∈ counted, ¬ Refused pair.2 := by
    intro pair member
    exact each pair.2 (List.mem_map_of_mem member)
  obtain ⟨parts, written, ran⟩ := succeeds accepted
  have present : counted ≠ [] := by
    rintro rfl
    cases three
  rw [if_neg present] at ran
  refine ⟨counted, parts, three, written, ran, ?_⟩
  have evaluated : adHocFilter.expand guardedQuery guardedCall
      { guarded with filters := acceptedFilters } () = (.ok
        ("toString(c) NOT LIKE 'it''s' AND d IS NOT NULL AND c >= '5'" : String).toList, ()) := by
    rfl
  rw [evaluated] at ran
  exact (Except.ok.inj (Prod.mk.inj ran).1).symm

end QueryMacros.Builtin
