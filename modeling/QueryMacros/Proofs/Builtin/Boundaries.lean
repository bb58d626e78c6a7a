import Mathlib.Data.List.Infix
import QueryMacros.Proofs.Builtin.FormShape
import QueryMacros.Proofs.Builtin.Passes
import QueryMacros.Proofs.Macro.Expansion
import QueryMacros.Proofs.Macro.Seam

/-!
# No boundary is left

The four boundary macros come last. Each of their passes replaces every call that it
finds by a bound, and a bound neither holds the name of a boundary nor completes one:
it has no dollar, and whichever part of a name stands in front of it, the bound goes on
otherwise. A name that ended right in front of a call does not end in front of the
bound, where a word begins. So a pass leaves no occurrence of its own name and makes
none of the other three, and after the last pass there is none of any.
-/
namespace QueryMacros

open Macro Applier

variable {σ : Type}

namespace Callee

/-- The macros for the ends of the time range, in order. -/
def boundaries : List Callee := [.toTime, .toTimeMillis, .fromTime, .fromTimeMillis]

/-! ## Bounds -/

/-- A text that a name neither begins in nor reaches into. -/
structure Separates (name text : Text) : Prop where
  silent : Silent name text
  apart : ∀ before rest, ¬ Across name before (text ++ rest)

/-- Where a text stands that separates, a name occurs only in what is around it, and it
does not end at the text. -/
theorem Separates.occurs_iff {name text : Text} (separates : Separates name text)
    (named : name ≠ []) {before : Text} (clear : ¬ Inside name before) (rest : Text) :
    Occurs name (before ++ (text ++ rest)) ↔ Occurs name rest := by
  rw [occurs_append_iff named clear (separates.apart before rest)]
  exact occurs_append_of_silent named separates.silent rest

/-- Whichever end of a name is left over, the text goes on otherwise, or with a word where
nothing is left over. -/
def Bars (name text : Text) : Prop := ∀ remainder ∈ name.tails, partsFrom remainder text = true

instance (name text : Text) : Decidable (Bars name text) :=
  inferInstanceAs (Decidable (∀ _ ∈ _, _))

/-- It is enough to look at how a text begins: without a dollar no name begins inside
it, and its first characters bar a name that would reach into it. -/
theorem separates_of_bars {callee : Callee} {opening text : Text}
    (bars : Bars callee.name opening) (begins : opening <+: text) (noDollar : '$' ∉ text) :
    Separates callee.name text where
  silent := callee.silent_of_no_dollar noDollar
  apart := by
    obtain ⟨rest, rfl⟩ := begins
    rintro before behind ⟨front, part, remainder, following, -, named, -, rested, edge⟩
    have left : remainder ∈ callee.name.tails := by
      rw [List.mem_tails, named]
      exact List.suffix_append part remainder
    rw [List.append_assoc] at rested
    have inWord := isWord_head_of_partsFrom (bars remainder left) rested
    simp [Text.wordEdge, callee.name_ends_in_word, inWord] at edge

/-- A bound in fractional seconds separates the name of every boundary. -/
theorem separates_exactSecondBound {callee : Callee} (boundary : callee ∈ boundaries)
    (instant : Instant) : Separates callee.name (Sql.exactSecondBound instant) := by
  have bars : ∀ callee ∈ boundaries, Bars callee.name "toDateTime(".toList := by
    decide +kernel
  apply separates_of_bars (bars callee boundary) ?_ (Sql.isPlaceable_exactSecondBound _).noDollar
  exact ⟨_, (List.append_assoc _ _ _).symm⟩

/-- A bound in milliseconds separates the name of every boundary. -/
theorem separates_millisecondBound {callee : Callee} (boundary : callee ∈ boundaries)
    (instant : Instant) : Separates callee.name (Sql.millisecondBound instant) := by
  have bars : ∀ callee ∈ boundaries, Bars callee.name "fromUnixTimestamp64Milli(".toList := by
    decide +kernel
  apply separates_of_bars (bars callee boundary) ?_ (Sql.isPlaceable_millisecondBound _).noDollar
  exact ⟨_, (List.append_assoc _ _ _).symm⟩

/-! ## Expansions -/

/-- Where a boundary expands, there is a time range, and the bound of one of its ends
comes out. -/
theorem boundary_eq_ok {bound : Instant → Text} {side : TimeRange → Instant}
    {invocation : Invocation} {context : Context σ} {state final : σ} {text : Text}
    (expanded : Builtin.boundary bound side invocation context state = (.ok text, final)) :
    ∃ instant, text = bound instant := by
  obtain ⟨_, _, -, expanded⟩ := Expansion.bind_eq_ok.1 expanded
  cases ranged : context.timeRange with
  | none =>
    rw [ranged] at expanded
    exact absurd expanded Expansion.throw_ne_ok
  | some range =>
    rw [ranged] at expanded
    obtain ⟨same, -⟩ := Expansion.pure_eq_ok.1 expanded
    exact ⟨side range, same.symm⟩

/-- What a boundary expands to separates the names of all of them. -/
theorem separates_of_expand {callee other : Callee} (boundary : callee ∈ boundaries)
    (otherBoundary : other ∈ boundaries) {sql text : Text} {invocation : Invocation}
    {context : Context σ} {state final : σ}
    (expanded : callee.applier.expand sql invocation context state = (.ok text, final)) :
    Separates other.name text := by
  have kinds : callee = .toTime ∨ callee = .toTimeMillis ∨ callee = .fromTime ∨
      callee = .fromTimeMillis := by
    simpa [boundaries] using boundary
  rcases kinds with rfl | rfl | rfl | rfl
  · obtain ⟨instant, rfl⟩ := boundary_eq_ok expanded
    exact separates_exactSecondBound otherBoundary instant
  · obtain ⟨instant, rfl⟩ := boundary_eq_ok expanded
    exact separates_millisecondBound otherBoundary instant
  · obtain ⟨instant, rfl⟩ := boundary_eq_ok expanded
    exact separates_exactSecondBound otherBoundary instant
  · obtain ⟨instant, rfl⟩ := boundary_eq_ok expanded
    exact separates_millisecondBound otherBoundary instant

/-! ## Passes -/

/-- A pass of a boundary leaves no occurrence of its own name, and makes none of another
boundary's. The induction is on the text behind each call, which is shorter. -/
theorem not_occurs_meaning {callee other : Callee} (boundary : callee ∈ boundaries)
    (otherBoundary : other ∈ boundaries) {context : Context σ} (text : Text) {result : Text}
    {state final : σ} (absent : other = callee ∨ ¬ Occurs other.name text)
    (ran : callee.applier.meaning context text state = (.ok result, final)) :
    ¬ Occurs other.name result := by
  induction size : text.length using Nat.strongRecOn generalizing text result state final with
  | ind length inductionHypothesis =>
    cases search : occurrence? (callee.applier : Applier σ).name none text with
    | none =>
      rw [meaning_of_none search] at ran
      obtain ⟨rfl, -⟩ := Expansion.pure_eq_ok.1 ran
      rcases absent with rfl | absent
      · rw [applier_name] at search
        exact (occurrence?_eq_none_iff other.name_ne_nil).1 search
      · exact absent
    | some occurrence =>
      rw [meaning_of_some search] at ran
      obtain ⟨arguments, _, -, ran⟩ := Expansion.bind_eq_ok.1 ran
      obtain ⟨replacement, _, expanded, ran⟩ := Expansion.bind_eq_ok.1 ran
      obtain ⟨behind, _, expandedBehind, ran⟩ := Expansion.bind_eq_ok.1 ran
      obtain ⟨rfl, rfl⟩ := Expansion.pure_eq_ok.1 ran
      have split := occurrence?_text search
      -- What is in front of the call was searched, or has no occurrence to begin with.
      have clear : ¬ Inside other.name occurrence.before := by
        rcases absent with rfl | absent
        · obtain ⟨⟨before, after⟩, located, rfl⟩ := Option.map_eq_some_iff.1 search
          rw [applier_name] at located
          exact not_inside_of_locate? other.name_ne_nil located
        · intro inside
          apply absent
          rw [split, List.append_assoc]
          exact inside.occurs_append _
      have absentBehind : other = callee ∨ ¬ Occurs other.name occurrence.rest := by
        refine absent.imp_right fun absent occurs => absent ?_
        rw [split]
        exact occurs.append_left _
      have shorter := occurrence?_rest_length callee.applier.named search
      have nothingBehind := inductionHypothesis _ (size ▸ shorter) occurrence.rest absentBehind
        expandedBehind rfl
      -- The replacement keeps the text in front and the text behind apart.
      have separates := separates_of_expand boundary otherBoundary expanded
      rw [List.append_assoc, separates.occurs_iff other.name_ne_nil clear]
      exact nothingBehind

/-- After passes of boundaries there is no occurrence of their names, and none of another
boundary's that was not there before. -/
theorem not_occurs_passes {callees : List Callee} (each : ∀ callee ∈ callees, callee ∈ boundaries)
    {other : Callee} (otherBoundary : other ∈ boundaries) {context : Context σ}
    {text result : Text} {state final : σ} (absent : other ∈ callees ∨ ¬ Occurs other.name text)
    (ran : passes callees context text state = (.ok result, final)) :
    ¬ Occurs other.name result := by
  induction callees generalizing text state with
  | nil =>
    obtain ⟨rfl, -⟩ := Expansion.pure_eq_ok.1 ran
    simpa using absent
  | cons callee callees inductionHypothesis =>
    obtain ⟨boundary, others⟩ := List.forall_mem_cons.1 each
    rw [passes_cons] at ran
    obtain ⟨between, _, first, later⟩ := Expansion.bind_eq_ok.1 ran
    have blind : (callee.applier : Applier σ).IgnoresPlace context := by
      apply ignoresPlace
      rintro rfl
      exact absurd boundary (by decide)
    rw [applyAll_of_ignoresPlace blind] at first
    refine inductionHypothesis others ?_ later
    by_cases inOthers : other ∈ callees
    · exact Or.inl inOthers
    · right
      refine not_occurs_meaning boundary otherBoundary text (absent.imp_left fun member => ?_) first
      exact (List.mem_cons.1 member).resolve_right inOthers

end Callee

/-- A query whose macros are expanded holds no name of a boundary, wherever it came
from. -/
theorem expandMacros_no_boundary {context : Context σ} {sql out : Text} {state : σ}
    (ran : (expandMacros context sql state).1 = .ok out) :
    ∀ name ∈ [ "$__fromTime".toList, "$__fromTime_ms".toList, "$__toTime".toList,
        "$__toTime_ms".toList], ¬ Occurs name out := by
  have order : Callee.all = Callee.all.take 10 ++ Callee.boundaries := rfl
  have whole : expandMacros context sql state = (.ok out, (expandMacros context sql state).2) :=
    Prod.ext ran rfl
  rw [Callee.expandMacros_eq_passes, order, Callee.passes_append] at whole
  obtain ⟨between, _, -, last⟩ := Expansion.bind_eq_ok.1 whole
  have gone (callee : Callee) (boundary : callee ∈ Callee.boundaries) : ¬ Occurs callee.name out :=
    Callee.not_occurs_passes (fun _ member => member) boundary (Or.inl boundary) last
  intro name member
  simp only [List.mem_cons, List.not_mem_nil, or_false] at member
  rcases member with rfl | rfl | rfl | rfl
  · exact gone .fromTime (by decide)
  · exact gone .fromTimeMillis (by decide)
  · exact gone .toTime (by decide)
  · exact gone .toTimeMillis (by decide)

/-- The first hour of 1970, with a filter whose value is the name of a boundary. -/
def hourlyFiltered : Context Unit :=
  { (Context.empty : Context Unit) with
    timeRange := some .firstHour
    filters := [⟨"c", .equal, some "$__toTime"⟩]
    keys := some fun _ => pure [⟨"c", none⟩] }

/-- Boundaries of the query and one that a filter puts in are all gone. -/
theorem expandMacros_no_boundary_filtered :
    (expandMacros hourlyFiltered
        "SELECT $__toTime, $__fromTime_ms() FROM t WHERE $__adHocFilter()".toList ()).1 =
      .ok ("SELECT toDateTime(3600), fromUnixTimestamp64Milli(0) FROM t " ++
        "WHERE c = 'toDateTime(3600)'").toList ∧
      ∀ name ∈ ["$__fromTime".toList, "$__fromTime_ms".toList, "$__toTime".toList,
          "$__toTime_ms".toList],
        ¬ Occurs name ("SELECT toDateTime(3600), fromUnixTimestamp64Milli(0) FROM t " ++
          "WHERE c = 'toDateTime(3600)'").toList := by
  have ran : (expandMacros hourlyFiltered
      "SELECT $__toTime, $__fromTime_ms() FROM t WHERE $__adHocFilter()".toList ()).1 =
        .ok ("SELECT toDateTime(3600), fromUnixTimestamp64Milli(0) FROM t " ++
          "WHERE c = 'toDateTime(3600)'").toList := by
    decide +kernel
  exact ⟨ran, expandMacros_no_boundary ran⟩

end QueryMacros
