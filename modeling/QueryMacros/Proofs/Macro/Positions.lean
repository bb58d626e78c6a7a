import Mathlib.Order.Bounds.Basic
import QueryMacros.Proofs.Macro.Rewriting
import QueryMacros.Proofs.Text.Slice

/-!
# Positions of a name

A name stands at a byte offset of a text if its characters begin there and a word begins
or ends right behind them. Nothing else enters, so whether it stands there can be said
without a search. A search from an offset finds the least of these positions that is not
in front of the offset, be the offset a place of the text or inside a character; and it
finds nothing only where there is none. From an offset behind the end of the text it does
not start at all.
-/
namespace QueryMacros

namespace Text

/-- Of two front parts of a text, the one of fewer bytes is the front of the other. -/
theorem prefix_of_utf8Length_le {text front other : Text} (starts : front <+: text)
    (otherStarts : other <+: text) (fewer : utf8Length front ≤ utf8Length other) :
    front <+: other := by
  rcases List.prefix_or_prefix_of_prefix starts otherStarts with within | ⟨more, rfl⟩
  · exact within
  · have nothing : more = [] := by
      apply Classical.byContradiction
      intro filled
      have positive := utf8Length_pos filled
      rw [utf8Length_append] at fewer
      omega
    rw [nothing]
    exact ⟨[], by rw [List.append_nil, List.append_nil]⟩

/-- A text has as many bytes as any of its fronts, or more. -/
theorem utf8Length_le_of_prefix {front text : Text} (starts : front <+: text) :
    utf8Length front ≤ utf8Length text := by
  obtain ⟨rest, rfl⟩ := starts
  rw [utf8Length_append]
  exact Nat.le_add_right _ _

/-- The first boundary at or behind an offset splits the text, and every front part that
ends at or behind the offset reaches it. -/
theorem cutAtOrBehind?_eq_some {text before after : Text} {offset : Nat}
    (cut : cutAtOrBehind? text offset = some (before, after)) :
    text = before ++ after ∧ offset ≤ utf8Length before ∧
      ∀ front, front <+: text → offset ≤ utf8Length front → before <+: front := by
  fun_induction cutAtOrBehind? text offset generalizing before with
  | case1 rest =>
    obtain ⟨rfl, rfl⟩ := Prod.mk.inj (Option.some.inj cut)
    exact ⟨rfl, Nat.le_refl _, fun front _ _ => List.nil_prefix⟩
  | case2 => simp at cut
  | case3 c rest offset inductionHypothesis =>
    obtain ⟨⟨inner, back⟩, cutRest, same⟩ := Option.map_eq_some_iff.1 cut
    obtain ⟨rfl, rfl⟩ := Prod.mk.inj same
    obtain ⟨rfl, reached, least⟩ := inductionHypothesis cutRest
    refine ⟨rfl, by rw [utf8Length_cons]; omega, ?_⟩
    intro front starts behind
    cases front with
    | nil => exact absurd behind (Nat.not_succ_le_zero offset)
    | cons d front =>
      obtain ⟨rfl, startsRest⟩ := List.cons_prefix_cons.1 starts
      rw [utf8Length_cons] at behind
      exact List.cons_prefix_cons.2 ⟨rfl, least front startsRest (by omega)⟩

/-- No boundary lies at or behind an offset beyond the end. -/
theorem cutAtOrBehind?_eq_none {text : Text} {offset : Nat}
    (beyond : cutAtOrBehind? text offset = none) : utf8Length text < offset := by
  fun_induction cutAtOrBehind? text offset with
  | case1 => simp at beyond
  | case2 offset => exact Nat.succ_pos offset
  | case3 c rest offset inductionHypothesis =>
    have further := inductionHypothesis (Option.map_eq_none_iff.1 beyond)
    rw [utf8Length_cons]
    omega

end Text

namespace Macro

/-- The name stands at a byte offset of a text, and a word begins or ends right behind
it. -/
def StandsAt (name text : Text) (offset : Nat) : Prop :=
  ∃ before behind, text = before ++ name ++ behind ∧ offset = Text.utf8Length before ∧
    Text.wordEdge name.getLast? behind.head? = true

/-- Where a name stands, the search has come to an end: it has passed over no more than
the text in front. The induction is on the text, which loses a character wherever the
search has not ended. -/
theorem locate?_first {name text front rest before behind : Text} (named : name ≠ [])
    (found : locate? name none text = some (front, rest))
    (split : text = before ++ name ++ behind)
    (edge : Text.wordEdge name.getLast? behind.head? = true) : front <+: before := by
  induction text generalizing front before with
  | nil =>
    obtain ⟨_, -, same⟩ := Option.map_eq_some_iff.1 found
    obtain ⟨rfl, -⟩ := Prod.mk.inj same
    exact List.nil_prefix
  | cons c text inductionHypothesis =>
    rw [locate?] at found
    cases here : nameAt? name none (c :: text) with
    | some _ =>
      rw [here] at found
      obtain ⟨rfl, -⟩ := Prod.mk.inj (Option.some.inj found)
      exact List.nil_prefix
    | none =>
      rw [here] at found
      obtain ⟨⟨front, _⟩, later, same⟩ := Option.map_eq_some_iff.1 found
      obtain ⟨rfl, rfl⟩ := Prod.mk.inj same
      rw [locate?_previous named (some c)] at later
      cases before with
      | nil =>
        have stands := nameAt?_eq_some_iff.2 ⟨by simpa using split, edge⟩
        rw [here] at stands
        cases stands
      | cons d before =>
        obtain ⟨rfl, splitRest⟩ := List.cons.inj split
        exact List.cons_prefix_cons.2 ⟨rfl, inductionHypothesis later splitRest⟩

section Search

variable {name : Text} {cursor : Cursor}

/-- What stands behind a place stands in the text behind it. -/
theorem split_of_standsAt {place : Nat} (stands : StandsAt name cursor.text place)
    (behindPlace : cursor.offset ≤ place) :
    ∃ between behind, cursor.after = between ++ name ++ behind ∧
      place = Text.utf8Length (cursor.before ++ between) ∧
        Text.wordEdge name.getLast? behind.head? = true := by
  obtain ⟨before, behind, split, rfl, edge⟩ := stands
  have starts : cursor.before <+: cursor.text := List.prefix_append _ _
  have otherStarts : before <+: cursor.text := by
    rw [split, List.append_assoc]
    exact List.prefix_append _ _
  obtain ⟨between, rfl⟩ := Text.prefix_of_utf8Length_le starts otherStarts behindPlace
  refine ⟨between, behind, ?_, rfl, edge⟩
  rw [Cursor.text, List.append_assoc, List.append_assoc, List.append_cancel_left_eq] at split
  rw [split, List.append_assoc]

/-- Where a search finds nothing, the name does not stand behind the place. -/
theorem not_standsAt_of_next?_none (named : name ≠ []) (absent : next? name cursor = none)
    {place : Nat} (behindPlace : cursor.offset ≤ place) : ¬ StandsAt name cursor.text place := by
  intro stands
  obtain ⟨between, behind, split, -, edge⟩ := split_of_standsAt stands behindPlace
  rw [next?_eq_occurrence? named, occurrence?_eq_none_iff named] at absent
  exact absent ⟨between, behind, split, edge⟩

/-- The name stands where a search finds it. -/
theorem standsAt_of_next? (named : name ≠ []) {occurrence : Occurrence}
    (found : next? name cursor = some occurrence) :
    StandsAt name cursor.text (occurrence.invocation name cursor).start := by
  rw [next?_eq_occurrence? named] at found
  obtain ⟨⟨front, rest⟩, located, rfl⟩ := Option.map_eq_some_iff.1 found
  obtain ⟨-, edge⟩ := nameAt?_eq_some_iff.1 (nameAt?_of_locate? named located)
  refine ⟨cursor.before ++ front, rest, ?_, (Text.utf8Length_append _ _).symm, edge⟩
  rw [Cursor.text, locate?_eq_append located]
  simp only [List.append_assoc]

/-- Nothing that stands behind the place stands in front of what a search finds. -/
theorem start_le_of_standsAt (named : name ≠ []) {occurrence : Occurrence}
    (found : next? name cursor = some occurrence) {place : Nat}
    (stands : StandsAt name cursor.text place) (behindPlace : cursor.offset ≤ place) :
    (occurrence.invocation name cursor).start ≤ place := by
  obtain ⟨between, behind, split, rfl, edge⟩ := split_of_standsAt stands behindPlace
  rw [next?_eq_occurrence? named] at found
  obtain ⟨⟨front, rest⟩, located, rfl⟩ := Option.map_eq_some_iff.1 found
  have fewer := Text.utf8Length_le_of_prefix (locate?_first named located split edge)
  rw [Text.utf8Length_append]
  exact Nat.add_le_add_left fewer cursor.offset

end Search

/-- From an offset up to the end of the text a search starts at the place that comes next. -/
theorem searchFrom_of_le {sql : Text} {offset : Nat} (name : Text)
    (inText : offset ≤ Text.utf8Length sql) :
    ∃ cursor, cursor.text = sql ∧ offset ≤ cursor.offset ∧
      (∀ front, front <+: sql → offset ≤ Text.utf8Length front →
        cursor.offset ≤ Text.utf8Length front) ∧
      searchFrom name sql offset = .ok ((next? name cursor).map (·.invocation name cursor)) := by
  cases cut : Text.cutAtOrBehind? sql offset with
  | none => exact absurd (Text.cutAtOrBehind?_eq_none cut) (Nat.not_lt.2 inText)
  | some parts =>
    obtain ⟨before, after⟩ := parts
    obtain ⟨rfl, reached, least⟩ := Text.cutAtOrBehind?_eq_some cut
    refine ⟨⟨before, after⟩, rfl, reached, ?_, ?_⟩
    · intro front starts behind
      exact Text.utf8Length_le_of_prefix (least front starts behind)
    · rw [searchFrom, Cursor.atOrBehind?, cut, Option.map_some]

/-- Behind the end of the text no search can start. -/
theorem searchFrom_of_lt {sql : Text} {offset : Nat} (name : Text)
    (behindEnd : Text.utf8Length sql < offset) :
    searchFrom name sql offset = .error ⟨offset, Text.utf8Length sql⟩ := by
  cases cut : Text.cutAtOrBehind? sql offset with
  | none => rw [searchFrom, Cursor.atOrBehind?, cut, Option.map_none]
  | some parts =>
    -- The place would be one of the text, and so no further than its end.
    obtain ⟨before, after⟩ := parts
    obtain ⟨rfl, reached, -⟩ := Text.cutAtOrBehind?_eq_some cut
    rw [Text.utf8Length_append] at behindEnd
    omega

/-- A search that can start has found nothing if the name stands nowhere behind the offset. If
it has found an invocation, this one starts where the name stands first. -/
theorem searchFrom_least {name : Text} (named : name ≠ []) {sql : Text} {offset : Nat}
    (inText : offset ≤ Text.utf8Length sql) :
    ∃ found, searchFrom name sql offset = .ok found ∧
      match found with
      | none => ∀ place, offset ≤ place → ¬ StandsAt name sql place
      | some invocation => IsLeast {place | offset ≤ place ∧ StandsAt name sql place}
          invocation.start := by
  obtain ⟨cursor, rfl, reached, least, searched⟩ := searchFrom_of_le name inText
  have behindCursor {place : Nat} (stands : StandsAt name cursor.text place)
      (behind : offset ≤ place) : cursor.offset ≤ place := by
    obtain ⟨before, rest, split, rfl, -⟩ := stands
    have starts : before <+: cursor.text := by
      rw [split, List.append_assoc]
      exact List.prefix_append _ _
    exact least before starts behind
  refine ⟨_, searched, ?_⟩
  cases search : next? name cursor with
  | none =>
    intro place behind stands
    exact not_standsAt_of_next?_none named search (behindCursor stands behind) stands
  | some occurrence =>
    constructor
    · exact ⟨Nat.le_trans reached (Nat.le_add_right _ _), standsAt_of_next? named search⟩
    · rintro place ⟨behind, stands⟩
      exact start_le_of_standsAt named search stands (behindCursor stands behind)

/-- The exact outcome of a search from an offset up to the end of the text: an invocation where
the name stands first, and nothing exactly if it stands nowhere behind the offset. -/
theorem searchFrom_outcome {name : Text} (named : name ≠ []) {sql : Text} {offset : Nat}
    (inText : offset ≤ Text.utf8Length sql) :
    searchFrom name sql offset = .ok (findAt? name sql offset) ∧
      (∀ place, (findAt? name sql offset).map (·.start) = some place ↔
        IsLeast {place | offset ≤ place ∧ StandsAt name sql place} place) ∧
      (findAt? name sql offset = none ↔ ∀ place, offset ≤ place → ¬ StandsAt name sql place) := by
  obtain ⟨found, searched, settled⟩ := searchFrom_least named inText
  have same : findAt? name sql offset = found := by
    rw [findAt?, searched]
    rfl
  rw [same]
  refine ⟨searched, ?_⟩
  cases found with
  | none =>
    refine ⟨fun place => ⟨?_, ?_⟩, fun _ => settled, fun _ => rfl⟩
    · intro none
      cases none
    · rintro ⟨⟨behind, stands⟩, -⟩
      exact absurd stands (settled place behind)
  | some invocation =>
    rw [Option.map_some]
    refine ⟨fun place => ⟨?_, ?_⟩, ?_, ?_⟩
    · intro started
      rw [← Option.some.inj started]
      exact settled
    · intro first
      rw [settled.unique first]
    · intro none
      cases none
    · intro nowhere
      exact absurd settled.1.2 (nowhere _ settled.1.1)

/-- The name stands where a search has found it. -/
theorem standsAt_of_searchFrom {name sql : Text} {offset : Nat} {invocation : Invocation}
    (named : name ≠ []) (searched : searchFrom name sql offset = .ok (some invocation)) :
    StandsAt name sql invocation.start := by
  rcases Nat.lt_or_ge (Text.utf8Length sql) offset with behindEnd | inText
  · rw [searchFrom_of_lt name behindEnd] at searched
    cases searched
  · obtain ⟨found, again, settled⟩ := searchFrom_least named inText
    obtain rfl : found = some invocation := Except.ok.inj (again.symm.trans searched)
    exact settled.1.2

end Macro

end QueryMacros
