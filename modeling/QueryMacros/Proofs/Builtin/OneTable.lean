import QueryMacros.Builtin.AdHocFilter
import QueryMacros.Proofs.Macro.Stages
import QueryMacros.Proofs.Sql.Tables

/-!
# One query, one table

Every invocation of the ad-hoc filter looks for the table of the query in the text as it
stands at that moment. By then the invocations in front of it are conditions, and what
their values hold is searched for a table like all the rest. So the invocations of a query
come to the same condition exactly if each of these texts gives that condition; it is
enough that they all name the table of the query, and they do if the query names it in
front of its first invocation.
-/
namespace QueryMacros.Builtin

open Macro Applier

variable {σ : Type}

/-- The outcome of a lookup depends on the table alone. -/
def Consistent (lookup : Text → Metadata.Lookup σ (List Metadata.TableKey)) : Prop :=
  ∀ table state other, (lookup table state).1 = (lookup table other).1

/-- Where the outcome of the first part does not depend on the state, and none of the
second part does, the outcome of both does not. -/
theorem fst_bind_congr {α β : Type} {first : Expansion σ α} {second : α → Expansion σ β}
    {state other : σ} (same : (first state).1 = (first other).1)
    (later : ∀ a state other, (second a state).1 = (second a other).1) :
    ((first >>= second) state).1 = ((first >>= second) other).1 := by
  change (ExceptT.bindCont second (first state).1 (first state).2).1 =
    (ExceptT.bindCont second (first other).1 (first other).2).1
  rw [same]
  cases (first other).1 with
  | ok a => exact later a _ _
  | error fault => rfl

/-- An outcome is what it is in every state. -/
theorem fst_ofExcept {α : Type} (outcome : Except Error α) (state : σ) :
    ((ofExcept outcome : Expansion σ α) state).1 = outcome := by
  cases outcome with
  | ok a => rfl
  | error fault => rfl

/-- What the ad-hoc filter expands to depends on the table of the query alone. -/
theorem expand_adHocFilter_congr {context : Context σ} {sql other : Text}
    (consistent : ∀ lookup, context.keys = some lookup → Consistent lookup)
    (same : context.table sql = context.table other) {here there : Invocation}
    (bare : here.arguments = []) (otherBare : there.arguments = []) (state otherState : σ) :
    (adHocFilter.expand sql here context state).1 =
      (adHocFilter.expand other there context otherState).1 := by
  have checked {invocation : Invocation} (none : invocation.arguments = []) :
      invocation.requireArguments 0 = .ok [] := by
    simp [Invocation.requireArguments, none]
  unfold adHocFilter
  simp only [checked bare, checked otherBare, same]
  by_cases unfiltered : context.filters.isEmpty = true
  · simp only [unfiltered, ↓reduceIte]
    rfl
  simp only [unfiltered]
  cases context.table other with
  | none => rfl
  | some table =>
    cases keyed : context.keys with
    | none => rfl
    | some lookup =>
      refine @fst_bind_congr σ _ _ _ _ state otherState rfl fun _ state otherState => ?_
      apply fst_bind_congr
      · have answer := consistent lookup keyed table state otherState
        exact congrArg (Except.mapError _) answer
      · intro keys between otherBetween
        apply fst_bind_congr
        · rw [fst_ofExcept, fst_ofExcept]
        · intro conditions last otherLast
          rfl

/-- If lookups answer by the table alone, the ad-hoc filter expands by the whole text
alone: neither its place nor the state matters. -/
theorem steady_adHocFilter {context : Context σ}
    (consistent : ∀ lookup, context.keys = some lookup → Consistent lookup) :
    (adHocFilter : Applier σ).Steady context := by
  intro sql here there state other _ bare otherBare
  exact expand_adHocFilter_congr consistent rfl bare otherBare state other

/-- Every invocation comes to the same condition exactly if every stage gives that
condition. It is enough that the query as it was gives the condition and the stages name
the same table, and they do if it is named in front of the first invocation. Expansions of
the ad-hoc filter are determined by the table, which the stages share. -/
theorem applyAll_adHocFilter_one_table {context : Context σ} {text : Text}
    (extracts : context.table = Sql.extractTable)
    (consistent : ∀ lookup, context.keys = some lookup → Consistent lookup)
    (bare : ∀ invocation ∈ invocations adHocFilterName (.start text), invocation.arguments = [])
    (condition : Text) (state : σ) :
    adHocFilter.applyAll context text =
        weave adHocFilterName (.start text) <$> adHocFilter.replacements context (.start text) ∧
      ((adHocFilter.replacements context (.start text) state).1 =
          .ok (alike adHocFilterName condition (.start text)) ↔
        ∀ stage ∈ stages adHocFilterName condition (.start text),
          (adHocFilter.expand stage (bareCall adHocFilterName) context state).1 =
            .ok condition) ∧
      ((adHocFilter.expand text (bareCall adHocFilterName) context state).1 = .ok condition →
        ((∀ stage ∈ stages adHocFilterName condition (.start text),
            Sql.extractTable stage = Sql.extractTable text) ∨
          ∃ occurrence, occurrence? adHocFilterName none text = some occurrence ∧
            Sql.Settles occurrence.before) →
        (adHocFilter.applyAll context text state).1 = .ok (weave adHocFilterName (.start text)
          (alike adHocFilterName condition (.start text)))) := by
  have woven : adHocFilter.applyAll context text =
      weave adHocFilterName (.start text) <$> adHocFilter.replacements context (.start text) :=
    applyFrom_eq_weave adHocFilter context (.start text)
  have exactly := replacements_eq_alike_iff (steady_adHocFilter consistent) bare condition state
    state
  refine ⟨woven, exactly, ?_⟩
  intro first tables
  -- A clause in front of the first invocation stands in front of it in every stage.
  have sameTable : ∀ stage ∈ stages adHocFilterName condition (.start text),
      Sql.extractTable stage = Sql.extractTable text := by
    rcases tables with same | ⟨occurrence, found, settles⟩
    · exact same
    · intro stage member
      have named : adHocFilterName ≠ [] := by decide
      have present : next? adHocFilterName (.start text) = some occurrence := found
      have starts : occurrence.before <+: stage := front_prefix_of_mem_stages named present member
      have whole : occurrence.before <+: text := by
        rw [occurrence?_text found, List.append_assoc]
        exact List.prefix_append _ _
      exact settles.extractTable_eq starts whole
  have noArguments : (bareCall adHocFilterName).arguments = [] := rfl
  have every := exactly.2 fun stage member => by
    have table : context.table stage = context.table text := by
      rw [extracts]
      exact sameTable stage member
    have gives := expand_adHocFilter_congr consistent table noArguments noArguments state state
    exact gives.trans first
  obtain ⟨final, ran⟩ := fst_eq_ok.1 every
  rw [woven, map_eq_pure_bind, Expansion.bind_of_ok ran]
  rfl

/-- A filter on a column of the table `t`, with a value that reads like a clause. -/
def misleading : Context Unit :=
  { (Context.empty : Context Unit) with
    filters := [⟨"t.c", .equal, some "x FROM u "⟩]
    keys := some fun _ => pure [⟨"c", none⟩] }

/-- A query that names its table in front of its invocations. -/
def settledQuery : Text := "SELECT 1 FROM t WHERE ($__adHocFilter()) AND $__adHocFilter()"

/-- A query that names its table between its invocations. -/
def openQuery : Text := "SELECT countIf($__adHocFilter()) FROM t WHERE $__adHocFilter()"

/-- Where the table is named first, no value leads to another one; where it is not, a value
does. -/
theorem applyAll_adHocFilter_one_table_misleading :
    (adHocFilter.applyAll misleading settledQuery ()).1 =
        .ok "SELECT 1 FROM t WHERE (c = 'x FROM u ') AND c = 'x FROM u '".toList ∧
      (adHocFilter.replacements misleading (.start openQuery) ()).1 ≠
        .ok (alike adHocFilterName "c = 'x FROM u '".toList (.start openQuery)) ∧
      (adHocFilter.applyAll misleading openQuery ()).1 =
        .ok "SELECT countIf(c = 'x FROM u ') FROM t WHERE 1=1".toList := by
  have consistent : ∀ lookup, misleading.keys = some lookup → Consistent lookup := by
    intro lookup same
    obtain rfl := Option.some.inj same
    exact fun _ _ _ => rfl
  have settles : ∃ occurrence, occurrence? adHocFilterName none settledQuery = some occurrence ∧
      Sql.Settles occurrence.before := by
    refine ⟨⟨"SELECT 1 FROM t WHERE (", [], "$__adHocFilter()", ") AND $__adHocFilter()"⟩,
      by decide +kernel, "SELECT 1 FROM t WHERE ".toList, by decide, rfl, "t".toList, ?_, by decide⟩
    decide +kernel
  have settled := (@applyAll_adHocFilter_one_table Unit misleading settledQuery rfl consistent
    (by decide +kernel) "c = 'x FROM u '".toList ()).2.2 (by decide +kernel) (Or.inr settles)
  have woven : weave adHocFilterName (.start settledQuery)
      (alike adHocFilterName "c = 'x FROM u '".toList (.start settledQuery)) =
        "SELECT 1 FROM t WHERE (c = 'x FROM u ') AND c = 'x FROM u '".toList := by
    decide +kernel
  refine ⟨settled.trans (congrArg Except.ok woven), ?_, by decide +kernel⟩
  intro every
  have stages := (@applyAll_adHocFilter_one_table Unit misleading openQuery rfl consistent
    (by decide +kernel) "c = 'x FROM u '".toList ()).2.1.1 every
  have last := stages "SELECT countIf(c = 'x FROM u ') FROM t WHERE $__adHocFilter()".toList
    (by decide +kernel)
  exact absurd last (by decide +kernel)

end QueryMacros.Builtin
