import QueryMacros.Builtin.AdHocFilter
import QueryMacros.Proofs.Macro.Expansion
import QueryMacros.Proofs.Sql.Lexing

/-!
# The condition of the ad-hoc filters

The condition joins one part for each filter that counts. A part is a comparison
with a literal, or a comparison with NULL, which has none. The database reads the
condition back as these parts: one literal for each value, with the value as it is
after substitution, and the same text around the literals whatever the values are.

A column stands in the condition as it is named, so nothing can be said if a column
that counts has a quote in its name.
-/
namespace QueryMacros

open Macro Sql

variable {σ : Type}

/-- A filter apart from its value: its key, its operator, and whether it has a
value. -/
def AdHocFilter.shape (filter : AdHocFilter) : Text × FilterOperator × Bool :=
  (filter.key, filter.operator, filter.value.isSome)

namespace Builtin

/-! ## Runs -/

/-- The keys of the table of a query, as they are looked up in a state: the table, the
keys, and the state that the lookup leaves. -/
def lookupKeys (context : Context σ) (sql : Text) (state : σ) :
    Option (Text × List Metadata.TableKey × σ) := do
  let table ← context.table sql
  let lookup ← context.keys
  match lookup table state with
  | (.ok keys, final) => some (table, keys, final)
  | (.error _, _) => none

/-- The keys are found if the query names a table, there is a lookup, and it answers. -/
theorem lookupKeys_eq_some {context : Context σ} {sql table : Text} {state final : σ}
    {keys : List Metadata.TableKey} :
    lookupKeys context sql state = some (table, keys, final) ↔
      context.table sql = some table ∧
        ∃ lookup, context.keys = some lookup ∧ lookup table state = (.ok keys, final) := by
  unfold lookupKeys
  cases context.table sql with
  | none => simp
  | some named =>
    cases context.keys with
    | none => simp
    | some lookup =>
      change (match lookup named state with
        | (.ok keys, final) => some (named, keys, final)
        | (.error _, _) => none) = _ ↔ _
      split
      · next found final' looked =>
        constructor
        · intro same
          obtain ⟨rfl, rest⟩ := Prod.mk.inj (Option.some.inj same)
          obtain ⟨rfl, rfl⟩ := Prod.mk.inj rest
          exact ⟨rfl, lookup, rfl, looked⟩
        · rintro ⟨sameTable, _, sameLookup, again⟩
          obtain rfl := Option.some.inj sameTable
          obtain rfl := Option.some.inj sameLookup
          rw [looked] at again
          cases again
          rfl
      · next failed =>
        constructor
        · intro absurdity
          cases absurdity
        · rintro ⟨sameTable, _, sameLookup, succeeded⟩
          obtain rfl := Option.some.inj sameTable
          obtain rfl := Option.some.inj sameLookup
          rw [succeeded] at failed
          cases failed

/-- The filters that count for a query in a state, each with its column. -/
def kept (context : Context σ) (sql : Text) (state : σ) : List (Text × AdHocFilter) :=
  match lookupKeys context sql state with
  | some (table, keys, _) => keptFilters table (keys.map (·.value)) context.filters
  | none => []

/-- The condition on each of the filters that count. -/
def conditions (context : Context σ) (counted : List (Text × AdHocFilter)) :
    Except Macro.Error (List Text) :=
  counted.mapM fun (column, filter) => filterCondition context column filter

/-- The ad-hoc filter succeeds without arguments, if there is nothing to filter by or the
keys of the table are there and every filter that counts has a condition. The cases are
those of the expansion in turn: the filters, the table, the lookup and what it answers. -/
theorem expand_adHocFilter_eq_ok {context : Context σ} {sql text : Text} {invocation : Invocation}
    {state final : σ} :
    adHocFilter.expand sql invocation context state = (.ok text, final) ↔
      (∃ arguments, invocation.requireArguments 0 = .ok arguments) ∧
        (context.filters = [] ∧ text = Sql.always ∧ state = final ∨
          context.filters ≠ [] ∧ ∃ table keys parts,
            lookupKeys context sql state = some (table, keys, final) ∧
              conditions context (keptFilters table (keys.map (·.value)) context.filters) =
                .ok parts ∧ text = conjunction parts) := by
  -- The check of the arguments reads no state, so it can be put in front.
  have checked (further : Expansion σ Text) :
      (∃ arguments between,
        (ofExcept (invocation.requireArguments 0) : Expansion σ (List Text)) state =
            (.ok arguments, between) ∧ further between = (.ok text, final)) ↔
        (∃ arguments, invocation.requireArguments 0 = .ok arguments) ∧
          further state = (.ok text, final) := by
    simp only [Expansion.ofExcept_eq_ok]
    grind
  refine Expansion.bind_eq_ok.trans ((checked _).trans (and_congr_right fun _ => ?_))
  by_cases unfiltered : context.filters = []
  · simp only [unfiltered, List.isEmpty_nil, ↓reduceIte, Expansion.pure_eq_ok]
    grind
  · have filtered : ¬ context.filters.isEmpty = true := by simpa using unfiltered
    rw [if_neg filtered]
    simp only [unfiltered, false_and, false_or, ne_eq, not_false_eq_true, true_and,
      lookupKeys_eq_some]
    cases context.table sql with
    | none => simp [Expansion.throw_ne_ok]
    | some table =>
      cases context.keys with
      | none => simp [Expansion.throw_ne_ok]
      | some lookup =>
        simp only [Expansion.bind_eq_ok, Expansion.adapt_eq_ok, Expansion.ofExcept_eq_ok,
          Expansion.pure_eq_ok]
        constructor
        · rintro ⟨keys, between, looked, parts, _, ⟨rendered, rfl⟩, rfl, rfl⟩
          exact ⟨table, keys, parts, ⟨rfl, lookup, rfl, looked⟩, rendered, rfl⟩
        · rintro ⟨_, keys, parts, ⟨sameTable, _, sameLookup, looked⟩, rendered, rfl⟩
          obtain rfl := Option.some.inj sameTable
          obtain rfl := Option.some.inj sameLookup
          exact ⟨keys, final, looked, parts, final, ⟨rendered, rfl⟩, rfl, rfl⟩

/-- A successful expansion is the joined conditions on the filters that count. -/
theorem expand_adHocFilter_conditions {context : Context σ} {sql text : Text}
    {invocation : Invocation} {state final : σ}
    (ran : adHocFilter.expand sql invocation context state = (.ok text, final)) :
    ∃ parts, conditions context (kept context sql state) = .ok parts ∧
      text = conjunction parts := by
  obtain ⟨-, outcome⟩ := expand_adHocFilter_eq_ok.1 ran
  rcases outcome with ⟨unfiltered, rfl, -⟩ | ⟨-, table, keys, parts, looked, rendered, rfl⟩
  · have vacant : kept context sql state = [] := by
      unfold kept
      rw [unfiltered]
      split
      · rfl
      · rfl
    exact ⟨[], by rw [vacant]; rfl, rfl⟩
  · have counted : kept context sql state =
        keptFilters table (keys.map (·.value)) context.filters := by
      unfold kept
      rw [looked]
    exact ⟨parts, counted ▸ rendered, rfl⟩

/-! ## Tokens -/

/-- The tokens of the condition on one filter. -/
def partTokens (context : Context σ) (column : Text) (filter : AdHocFilter) : List Token :=
  match filter.value, nullComparison column filter.operator with
  | some value, _ =>
      (comparison column [] filter.operator).map .outside ++ [.literal (context.substitute value)]
  | none, .ok part => part.map .outside
  | none, .error _ => []

/-- The tokens between two conditions. -/
def separatorTokens : List Token := (" AND " : String).toList.map .outside

/-- The tokens of the conditions on the filters that count. -/
def conditionTokens (context : Context σ) (counted : List (Text × AdHocFilter)) : List Token :=
  if counted.isEmpty then Sql.always.map .outside
  else separatorTokens.intercalate
    (counted.map fun (column, filter) => partTokens context column filter)

/-- A character that means something to no reader of the condition: it opens no
literal and no macro. -/
def isInert (c : Char) : Bool := c != '\'' && c != '$'

/-- A comparison is the column between inert texts, and then the literal. What stands
around the column depends on the operator only. -/
theorem comparison_eq (operator : FilterOperator) :
    ∃ before behind : Text, before.all isInert = true ∧ behind.all isInert = true ∧
      ∀ column literal, comparison column literal operator =
        before ++ column ++ behind ++ literal := by
  have symbolic (symbol : Text) (inert : symbol.all isInert = true)
      (written : ∀ column literal, comparison column literal operator =
        column ++ ' ' :: symbol ++ ' ' :: literal) :
      ∃ before behind : Text, before.all isInert = true ∧ behind.all isInert = true ∧
        ∀ column literal, comparison column literal operator =
          before ++ column ++ behind ++ literal := by
    refine ⟨[], ' ' :: symbol ++ [' '], rfl, ?_, ?_⟩
    · rw [List.all_append, List.all_cons, inert]
      decide
    · intro column literal
      rw [written, List.nil_append, ← List.append_assoc, List.append_assoc _ [' '],
        List.singleton_append]
  cases operator with
  | like => exact ⟨"toString(", ") LIKE ", by decide, by decide, fun _ _ => rfl⟩
  | notLike => exact ⟨"toString(", ") NOT LIKE ", by decide, by decide, fun _ _ => rfl⟩
  | equal => exact symbolic "=" (by decide) fun _ _ => rfl
  | notEqual => exact symbolic "!=" (by decide) fun _ _ => rfl
  | less => exact symbolic "<" (by decide) fun _ _ => rfl
  | greater => exact symbolic ">" (by decide) fun _ _ => rfl
  | lessOrEqual => exact symbolic "<=" (by decide) fun _ _ => rfl
  | greaterOrEqual => exact symbolic ">=" (by decide) fun _ _ => rfl

/-- A literal ends the comparison that it stands in. -/
theorem comparison_eq_append (column literal : Text) (operator : FilterOperator) :
    comparison column literal operator = comparison column [] operator ++ literal := by
  obtain ⟨before, behind, -, -, written⟩ := comparison_eq operator
  rw [written column literal, written column [], List.append_nil]

/-- A comparison with NULL is the column and then an inert text. -/
theorem nullComparison_eq {column part : Text} {operator : FilterOperator}
    (rendered : nullComparison column operator = .ok part) :
    ∃ behind : Text, behind.all isInert = true ∧ part = column ++ behind := by
  cases operator with
  | equal => exact ⟨" IS NULL", by decide, (Except.ok.inj rendered).symm⟩
  | notEqual => exact ⟨" IS NOT NULL", by decide, (Except.ok.inj rendered).symm⟩
  | less | greater | lessOrEqual | greaterOrEqual | like | notLike => cases rendered

/-- A character that is not inert is in a comparison only if it is in the column. -/
theorem mem_column_of_mem_comparison {c : Char} {column : Text} {operator : FilterOperator}
    (marked : isInert c = false) (member : c ∈ comparison column [] operator) : c ∈ column := by
  obtain ⟨before, behind, inertBefore, inertBehind, written⟩ := comparison_eq operator
  rw [written, List.append_nil] at member
  rw [List.all_eq_true] at inertBefore inertBehind
  grind

/-- A comparison with NULL adds only inert characters to its column. -/
theorem mem_column_of_mem_nullComparison {c : Char} {column part : Text}
    {operator : FilterOperator} (rendered : nullComparison column operator = .ok part)
    (marked : isInert c = false) (member : c ∈ part) : c ∈ column := by
  obtain ⟨behind, inertBehind, rfl⟩ := nullComparison_eq rendered
  rw [List.all_eq_true] at inertBehind
  grind

/-- The condition on a filter is read as its tokens, whatever follows it, unless that is a
quote. The text in front of the literal has no quotes, as long as the column has none. -/
theorem tokensFrom_filterCondition {context : Context σ} {column part rest : Text}
    {filter : AdHocFilter} (rendered : filterCondition context column filter = .ok part)
    (unquoted : '\'' ∉ column) (apart : rest.head? ≠ some '\'') :
    tokensFrom none (part ++ rest) =
      (tokensFrom none rest).map (partTokens context column filter ++ ·) := by
  unfold filterCondition at rendered
  cases valued : filter.value with
  | some value =>
    rw [valued] at rendered
    obtain rfl := Except.ok.inj rendered
    have leading : '\'' ∉ comparison column [] filter.operator := fun member =>
      unquoted (mem_column_of_mem_comparison (by decide) member)
    rw [comparison_eq_append, List.append_assoc, tokensFrom_outside leading,
      tokensFrom_quote _ apart, Option.map_map]
    simp only [partTokens, valued, List.append_assoc, List.singleton_append]
    rfl
  | none =>
    rw [valued] at rendered
    have noQuote : '\'' ∉ part := fun member =>
      unquoted (mem_column_of_mem_nullComparison rendered (by decide) member)
    rw [tokensFrom_outside noQuote]
    simp only [partTokens, valued, rendered]

/-- Conditions are made in turn, and the first fault ends them. -/
theorem conditions_cons_eq (context : Context σ) (pair : Text × AdHocFilter)
    (counted : List (Text × AdHocFilter)) :
    conditions context (pair :: counted) = (do
      let part ← filterCondition context pair.1 pair.2
      let others ← conditions context counted
      return part :: others) :=
  List.mapM_cons

/-- The conditions on several filters are the condition on the first, and those on the
others. -/
theorem conditions_cons {context : Context σ} {column : Text} {filter : AdHocFilter}
    {counted : List (Text × AdHocFilter)} {parts : List Text} :
    conditions context ((column, filter) :: counted) = .ok parts ↔
      ∃ part others, filterCondition context column filter = .ok part ∧
        conditions context counted = .ok others ∧ parts = part :: others := by
  rw [conditions_cons_eq]
  cases filterCondition context column filter with
  | error fault => simp [bind, Except.bind]
  | ok part =>
    cases conditions context counted with
    | error fault => simp [bind, Except.bind]
    | ok others => simp [bind, Except.bind, pure, Except.pure, eq_comm]

/-- Conditions that are joined are read one after the other. The induction is on the
filters; between two conditions stands a blank, so the literal of the first ends where it
was closed. -/
theorem tokensFrom_intercalate {context : Context σ} {pair : Text × AdHocFilter}
    {counted : List (Text × AdHocFilter)} {parts : List Text}
    (rendered : conditions context (pair :: counted) = .ok parts)
    (unquoted : ∀ each ∈ pair :: counted, '\'' ∉ each.1) :
    tokensFrom none ((" AND " : String).toList.intercalate parts) =
      some (separatorTokens.intercalate
        ((pair :: counted).map fun (column, filter) => partTokens context column filter)) := by
  induction counted generalizing pair parts with
  | nil =>
    obtain ⟨column, filter⟩ := pair
    obtain ⟨part, others, renderedPart, renderedOthers, rfl⟩ := conditions_cons.1 rendered
    obtain rfl : others = [] := (Except.ok.inj renderedOthers).symm
    have here : '\'' ∉ column := unquoted _ List.mem_cons_self
    have alone : ([] : Text).head? ≠ some '\'' := by decide
    have read := tokensFrom_filterCondition renderedPart here alone
    simpa [tokensFrom] using read
  | cons next counted inductionHypothesis =>
    obtain ⟨column, filter⟩ := pair
    obtain ⟨part, others, renderedPart, renderedOthers, rfl⟩ := conditions_cons.1 rendered
    have here : '\'' ∉ column := unquoted _ List.mem_cons_self
    have readOthers := inductionHypothesis renderedOthers fun each member =>
      unquoted each (List.mem_cons_of_mem _ member)
    obtain ⟨second, later, -, -, rfl⟩ := conditions_cons.1 renderedOthers
    have separator : '\'' ∉ (" AND " : String).toList := by decide
    have readSeparator := tokensFrom_outside separator
      ((" AND " : String).toList.intercalate (second :: later))
    rw [List.intercalate_cons_cons, List.append_assoc,
      tokensFrom_filterCondition renderedPart here (by simp),
      readSeparator, readOthers]
    simp only [Option.map_some, List.map_cons, List.intercalate_cons_cons, List.append_assoc,
      separatorTokens]

/-- The whole condition is read as its tokens. -/
theorem tokens?_conjunction {context : Context σ} {counted : List (Text × AdHocFilter)}
    {parts : List Text} (rendered : conditions context counted = .ok parts)
    (unquoted : ∀ each ∈ counted, '\'' ∉ each.1) :
    tokens? (conjunction parts) = some (conditionTokens context counted) := by
  cases counted with
  | nil =>
    obtain rfl : parts = [] := (Except.ok.inj rendered).symm
    rfl
  | cons pair counted =>
    have read := tokensFrom_intercalate rendered unquoted
    obtain ⟨part, others, -, -, rfl⟩ := conditions_cons.1 rendered
    exact read

end Builtin

end QueryMacros
