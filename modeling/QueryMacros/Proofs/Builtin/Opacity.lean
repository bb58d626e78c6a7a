import QueryMacros.Proofs.Builtin.BareCall
import QueryMacros.Proofs.Builtin.Growth

/-!
# Macros in the values of filters

The ad-hoc filter expands early, and what it produces is not searched again by itself.
The macros that come after it do search it, with no regard to literals. So a value is
safe from expansion exactly if none of their names occurs in it: then the condition
stands in the query as it was produced, and otherwise the query is another one or
there is an error.
-/
namespace QueryMacros

open Macro

variable {σ : Type}

/-! ## Later passes -/

namespace Callee

/-- The built-in macros that come after the ad-hoc filter, in order. -/
def later : List Callee := all.drop 2

/-- The listed macros come after the ad-hoc filter. -/
theorem isLater_of_mem_later {callee : Callee} (member : callee ∈ later) : callee.IsLater := by
  have among : ∀ callee ∈ later, callee ≠ .conditionalAll ∧ callee ≠ .adHocFilter := by decide
  exact among callee member

/-- Passes of later macros lose no digit, and gain one if the name of any of them
occurs in the text that they start from. -/
theorem digitCount_passes {callees : List Callee} (later : ∀ callee ∈ callees, callee.IsLater)
    {context : Context σ} {range : TimeRange} (ranged : context.timeRange = some range)
    {text result : Text} {state final : σ}
    (ran : passes callees context text state = (.ok result, final)) :
    Text.digitCount text ≤ Text.digitCount result ∧
      ((∃ callee ∈ callees, Occurs callee.name text) →
        Text.digitCount text < Text.digitCount result) := by
  induction callees generalizing text state with
  | nil =>
    obtain ⟨rfl, -⟩ := Expansion.pure_eq_ok.1 ran
    exact ⟨Nat.le_refl _, by simp⟩
  | cons callee others inductionHypothesis =>
    obtain ⟨here, there⟩ := List.forall_mem_cons.1 later
    rw [passes_cons] at ran
    obtain ⟨middle, between, first, second⟩ := Expansion.bind_eq_ok.1 ran
    obtain ⟨keptBehind, gainedBehind⟩ := inductionHypothesis there second
    have blind : (callee.applier : Applier σ).IgnoresPlace context :=
      ignoresPlace fun same => absurd same here.2
    have meant := first
    rw [Applier.applyAll_of_ignoresPlace blind] at meant
    obtain ⟨kept, gained⟩ := digitCount_meaning here ranged text meant
    refine ⟨by omega, ?_⟩
    rintro ⟨named, member, occurs⟩
    by_cases occursHere : Occurs callee.name text
    · have more := gained occursHere
      omega
    · rw [applyAll_of_not_occurs occursHere] at first
      obtain ⟨rfl, rfl⟩ := Expansion.pure_eq_ok.1 first
      rcases List.mem_cons.1 member with rfl | inOthers
      · exact absurd occurs occursHere
      · exact gainedBehind ⟨named, inOthers, occurs⟩

/-- Passes of later macros give back the text that they start from exactly if none of
their names occurs in it. -/
theorem passes_eq_self_iff {callees : List Callee} (later : ∀ callee ∈ callees, callee.IsLater)
    {context : Context σ} {range : TimeRange} (ranged : context.timeRange = some range)
    {text : Text} {state : σ} :
    (passes callees context text state).1 = .ok text ↔
      ∀ callee ∈ callees, ¬ Occurs callee.name text := by
  constructor
  · intro unchanged callee member occurs
    have ran : passes callees context text state =
        (.ok text, (passes callees context text state).2) := Prod.ext unchanged rfl
    have more := (digitCount_passes later ranged ran).2 ⟨callee, member, occurs⟩
    exact Nat.lt_irrefl _ more
  · intro absent
    rw [passes_of_not_occurs absent]
    rfl

end Callee

/-! ## The call of the ad-hoc filter -/

namespace Builtin

/-- The call of the ad-hoc filter. -/
def filterCall : Text := adHocFilterName ++ ['(', ')']

/-- The one invocation in a text whose only dollar belongs to the call. -/
def filterInvocation (before : Text) : Invocation where
  name := adHocFilterName
  start := Text.utf8Length before
  stop := Text.utf8Length before + Text.utf8Length filterCall
  arguments := []

/-- A query whose only dollar calls the ad-hoc filter has no conditional. -/
theorem not_occurs_conditionalAll {before behind : Text} (noDollarBefore : '$' ∉ before)
    (noDollarBehind : '$' ∉ behind) :
    ¬ Occurs Callee.conditionalAll.name (before ++ filterCall ++ behind) :=
  Callee.not_occurs_bareCall (show .conditionalAll ≠ .adHocFilter by decide) noDollarBefore
    noDollarBehind

/-- The ad-hoc filter puts its condition in the place of the call, and leaves the
condition alone. -/
theorem applyAll_filterCall {before behind : Text} (noDollarBefore : '$' ∉ before)
    (noDollarBehind : '$' ∉ behind) (context : Context σ) :
    adHocFilter.applyAll context (before ++ filterCall ++ behind) = (do
      let condition ← adHocFilter.expand (before ++ filterCall ++ behind)
        (filterInvocation before) context
      return before ++ condition ++ behind) :=
  Callee.adHocFilter.applyAll_bareCall noDollarBefore noDollarBehind context

/-- Exactly if no macro that comes after the ad-hoc filter is named in a value that
counts, the condition stands in the query as it was produced. All else in the query is
free of dollars, and so are the columns. The passes behind the ad-hoc filter leave a text
alone exactly if it has none of their names, and outside the literals the condition has no
dollar. -/
theorem expandMacros_filterCall_eq_iff {context : Context σ} {range : TimeRange}
    {before behind condition : Text} {state final : σ}
    (ranged : context.timeRange = some range) (noDollarBefore : '$' ∉ before)
    (noDollarBehind : '$' ∉ behind)
    (columns : ∀ pair ∈ kept context (before ++ filterCall ++ behind) state, '$' ∉ pair.1)
    (expanded : adHocFilter.expand (before ++ filterCall ++ behind) (filterInvocation before)
      context state = (.ok condition, final)) :
    (expandMacros context (before ++ filterCall ++ behind) state).1 =
        .ok (before ++ condition ++ behind) ↔
      ∀ callee ∈ Callee.later,
        ¬ NamedInValue callee context (kept context (before ++ filterCall ++ behind) state) := by
  have produced : expandMacros context (before ++ filterCall ++ behind) state =
      Callee.passes Callee.later context (before ++ condition ++ behind) final := by
    have order : Callee.all = .conditionalAll :: .adHocFilter :: Callee.later := rfl
    -- The conditional finds nothing, and the ad-hoc filter puts the condition in the text.
    have first : Callee.conditionalAll.applier.applyAll context (before ++ filterCall ++ behind) =
        (pure (before ++ filterCall ++ behind) : Expansion σ Text) :=
      Callee.applyAll_of_not_occurs (not_occurs_conditionalAll noDollarBefore noDollarBehind)
    have second : Callee.adHocFilter.applier.applyAll context (before ++ filterCall ++ behind)
        state = (.ok (before ++ condition ++ behind), final) := by
      refine (congrFun (applyAll_filterCall noDollarBefore noDollarBehind context) state).trans ?_
      exact Expansion.bind_of_ok expanded
    rw [Callee.expandMacros_eq_passes, order, Callee.passes_cons, first, pure_bind,
      Callee.passes_cons]
    exact Expansion.bind_of_ok second
  obtain ⟨parts, rendered, rfl⟩ := expand_adHocFilter_conditions expanded
  rw [produced, Callee.passes_eq_self_iff (fun _ => Callee.isLater_of_mem_later) ranged]
  refine forall₂_congr fun callee _ => not_congr ?_
  rw [List.append_assoc, callee.occurs_append_of_no_dollar noDollarBefore]
  exact occurs_conjunction callee rendered columns noDollarBehind

/-- A context in the first hour of 1970 with one filter on a column. -/
def filteredBy (value : Text) : Context Unit :=
  { (Context.empty : Context Unit) with
    timeRange := some .firstHour
    filters := [⟨"c", .equal, some value⟩]
    keys := some fun _ => pure [⟨"c", none⟩]
    table := fun _ => some "t" }

/-- A query that filters by the ad-hoc filters. -/
def filteredQuery : Text := "WHERE ".toList ++ filterCall ++ ";".toList

/-- A value that is the call of a later macro does not stay as it is, and one that
misses the name by a letter does. -/
theorem expandMacros_filterCall_fromTime :
    (adHocFilter.expand filteredQuery (filterInvocation "WHERE ".toList)
        (filteredBy "$__fromTime_ms()") () = (.ok "c = '$__fromTime_ms()'".toList, ()) ∧
      (expandMacros (filteredBy "$__fromTime_ms()") filteredQuery ()).1 ≠
        .ok ("WHERE ".toList ++ "c = '$__fromTime_ms()'".toList ++ ";".toList)) ∧
    adHocFilter.expand filteredQuery (filterInvocation "WHERE ".toList)
        (filteredBy "$__fromTime_msx()") () = (.ok "c = '$__fromTime_msx()'".toList, ()) ∧
      (expandMacros (filteredBy "$__fromTime_msx()") filteredQuery ()).1 =
        .ok ("WHERE ".toList ++ "c = '$__fromTime_msx()'".toList ++ ";".toList) := by
  have exactly (value condition : Text)
      (columns : ∀ pair ∈ kept (filteredBy value) filteredQuery (), '$' ∉ pair.1)
      (expanded : adHocFilter.expand filteredQuery (filterInvocation "WHERE ".toList)
        (filteredBy value) () = (.ok condition, ())) :
      (expandMacros (filteredBy value) filteredQuery ()).1 =
          .ok ("WHERE ".toList ++ condition ++ ";".toList) ↔
        ∀ callee ∈ Callee.later,
          ¬ NamedInValue callee (filteredBy value) (kept (filteredBy value) filteredQuery ()) := by
    have ranged : (filteredBy value).timeRange = some .firstHour := rfl
    exact expandMacros_filterCall_eq_iff ranged (by decide) (by decide) columns expanded
  have counted (value : Text) : kept (filteredBy value) filteredQuery () =
      [("c".toList, ⟨"c".toList, .equal, some value⟩)] := by
    rfl
  have columns (value : Text) :
      ∀ pair ∈ kept (filteredBy value) filteredQuery (), '$' ∉ pair.1 := by
    rw [counted]
    simp
  refine ⟨⟨rfl, ?_⟩, rfl, ?_⟩
  · intro unchanged
    have unnamed := (exactly _ _ (columns _) rfl).1 unchanged .fromTimeMillis (by decide)
    rw [counted] at unnamed
    exact unnamed ⟨_, List.mem_cons_self, _, rfl, [], "()".toList, by rfl, by decide⟩
  · refine (exactly _ _ (columns _) rfl).2 ?_
    rw [counted]
    rintro callee later ⟨pair, member, value, valued, occurs⟩
    obtain rfl := List.mem_singleton.1 member
    obtain rfl := Option.some.inj valued
    have absent : ∀ callee ∈ Callee.later,
        locate? callee.name none "$__fromTime_msx()".toList = none := by
      decide
    exact (locate?_eq_none_iff callee.name_ne_nil).1 (absent callee later) occurs

end Builtin

end QueryMacros
