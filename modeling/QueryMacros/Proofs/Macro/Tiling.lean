import Mathlib.Data.List.Forall2
import Mathlib.Data.List.Pairwise
import QueryMacros.Proofs.Macro.InRange
import QueryMacros.Proofs.Macro.Positions
import QueryMacros.Proofs.Macro.Stages

/-!
# Invocations tile a text

A text is searched from its start, and then again from the end of each invocation that is
found. What an invocation takes in is settled by the reading of its arguments: they may
hold further positions of the name, which are passed over, or there may be none. Either
way the invocations and the gaps between them make up the text. They come in order and
apart, no gap has a position of the name, and each position of it is in one invocation:
as its start, or inside what it takes in.
-/
namespace QueryMacros.Macro

/-- Searching a text from an offset, and then from the end of each invocation until none is
found, finds these invocations in turn. -/
inductive Searched (name text : Text) : Nat → List Invocation → Prop where
  | ended {offset : Nat} (absent : findAt? name text offset = none) :
      Searched name text offset []
  | found {offset : Nat} {invocation : Invocation} {others : List Invocation}
      (present : findAt? name text offset = some invocation)
      (behind : Searched name text invocation.stop others) :
      Searched name text offset (invocation :: others)

/-- A text is searched in one way. -/
theorem Searched.unique {name text : Text} {offset : Nat} {list other : List Invocation}
    (searched : Searched name text offset list) (otherwise : Searched name text offset other) :
    list = other := by
  induction searched generalizing other with
  | ended absent =>
    cases otherwise with
    | ended => rfl
    | found present =>
      rw [absent] at present
      cases present
  | found present _ inductionHypothesis =>
    cases otherwise with
    | ended absent =>
      rw [present] at absent
      cases absent
    | found otherPresent otherBehind =>
      obtain rfl := Option.some.inj (present.symm.trans otherPresent)
      rw [inductionHypothesis otherBehind]

/-- The bounds of what invocations leave over from one offset to another: up to the first of
them, between any two, and behind the last. -/
def gapBounds (offset stop : Nat) : List Invocation → List (Nat × Nat)
  | [] => [(offset, stop)]
  | invocation :: others => (offset, invocation.start) :: gapBounds invocation.stop stop others

/-- Two lists of texts in turn, the first list in front. -/
def interleave : List Text → List Text → Text
  | gap :: gaps, source :: sources => gap ++ source ++ interleave gaps sources
  | gaps, _ => gaps.flatten

section Search

variable {name : Text} {cursor : Cursor} {occurrence : Occurrence}

/-- The place behind an occurrence is one of the same text. -/
theorem text_behind (found : next? name cursor = some occurrence) :
    (occurrence.behind cursor).text = cursor.text :=
  (Applier.invocation_places found).1.symm

/-- Behind an invocation the search goes on at the offset where the invocation stops. -/
theorem offset_behind (found : next? name cursor = some occurrence) :
    (occurrence.behind cursor).offset = (occurrence.invocation name cursor).stop :=
  (Applier.invocation_places found).2.2.symm

end Search

/-- Induction along the invocations behind a place. A property of places holds at each of
them if it holds where none is left, and if it goes over to a place from the one behind
the next invocation. -/
@[elab_as_elim]
theorem Cursor.walk_induction {name : Text} (named : name ≠ []) {motive : Cursor → Prop}
    (absent : ∀ cursor, next? name cursor = none → motive cursor)
    (present : ∀ cursor occurrence, next? name cursor = some occurrence →
      motive (occurrence.behind cursor) → motive cursor)
    (cursor : Cursor) : motive cursor := by
  induction cursor using Cursor.search_induction named with
  | absent cursor search => exact absent cursor search
  | present cursor occurrence search inArguments behind =>
    exact present cursor occurrence search (behind (occurrence.behind cursor).before)

section Walk

variable {name : Text} (named : name ≠ []) (cursor : Cursor)
include named

/-- The invocations behind a place are those that searches find one after the other. -/
theorem searched_invocations :
    Searched name cursor.text cursor.offset (invocations name cursor) := by
  induction cursor using Cursor.walk_induction named with
  | absent cursor search =>
    rw [invocations_of_none search]
    apply Searched.ended
    rw [Applier.findAt?_offset, search]
    rfl
  | present cursor occurrence search behind =>
    rw [text_behind search, offset_behind search] at behind
    rw [invocations_of_some named search]
    apply Searched.found ?_ behind
    rw [Applier.findAt?_offset, search]
    rfl

/-- The invocations behind a place take something up, and none lies in front of the place. -/
theorem bounds_of_mem_invocations {invocation : Invocation}
    (member : invocation ∈ invocations name cursor) :
    cursor.offset ≤ invocation.start ∧ invocation.start < invocation.stop := by
  induction cursor using Cursor.walk_induction named with
  | absent cursor search =>
    rw [invocations_of_none search] at member
    cases member
  | present cursor occurrence search behind =>
    obtain ⟨reached, filled, -⟩ := Applier.invocation_in_range named search
    rw [invocations_of_some named search] at member
    rcases List.mem_cons.1 member with rfl | inBehind
    · exact ⟨reached, filled⟩
    · obtain ⟨later, filledLater⟩ := behind inBehind
      have passed : (occurrence.invocation name cursor).stop ≤ invocation.start :=
        offset_behind search ▸ later
      exact ⟨by omega, filledLater⟩

/-- Each invocation ends in front of those behind it. -/
theorem pairwise_invocations : (invocations name cursor).Pairwise fun earlier later =>
    earlier.start < later.start ∧ earlier.stop ≤ later.start := by
  induction cursor using Cursor.walk_induction named with
  | absent cursor search =>
    rw [invocations_of_none search]
    exact List.Pairwise.nil
  | present cursor occurrence search behind =>
    obtain ⟨-, filled, -⟩ := Applier.invocation_in_range named search
    rw [invocations_of_some named search]
    apply List.Pairwise.cons ?_ behind
    intro later member
    have passed : (occurrence.invocation name cursor).stop ≤ later.start :=
      offset_behind search ▸ (bounds_of_mem_invocations named (occurrence.behind cursor) member).1
    exact ⟨by omega, passed⟩

/-- Where the name stands behind a place, an invocation has begun and not ended. -/
theorem exists_invocation_of_standsAt {place : Nat} (stands : StandsAt name cursor.text place)
    (behindPlace : cursor.offset ≤ place) :
    ∃ invocation ∈ invocations name cursor,
      invocation.start ≤ place ∧ place < invocation.stop := by
  induction cursor using Cursor.walk_induction named with
  | absent cursor search =>
    exact absurd stands (not_standsAt_of_next?_none named search behindPlace)
  | present cursor occurrence search behind =>
    have begun := start_le_of_standsAt named search stands behindPlace
    rw [invocations_of_some named search]
    by_cases ended : (occurrence.invocation name cursor).stop ≤ place
    · rw [← text_behind search] at stands
      rw [← offset_behind search] at ended
      obtain ⟨invocation, member, within⟩ := behind stands ended
      exact ⟨invocation, List.mem_cons_of_mem _ member, within⟩
    · exact ⟨_, List.mem_cons_self, begun, Nat.lt_of_not_le ended⟩

/-- Two invocations that a place is in are the same. -/
theorem eq_of_mem_invocations {place : Nat} {invocation other : Invocation}
    (member : invocation ∈ invocations name cursor)
    (otherMember : other ∈ invocations name cursor)
    (within : invocation.start ≤ place ∧ place < invocation.stop)
    (otherWithin : other.start ≤ place ∧ place < other.stop) : invocation = other := by
  have apart : (invocations name cursor).Pairwise fun earlier later =>
      ¬ (earlier.start ≤ place ∧ place < earlier.stop ∧
        later.start ≤ place ∧ place < later.stop) := by
    refine (pairwise_invocations named cursor).imp ?_
    rintro earlier later ⟨-, passed⟩
    omega
  have symmetric : Std.Symm fun earlier later : Invocation =>
      ¬ (earlier.start ≤ place ∧ place < earlier.stop ∧
        later.start ≤ place ∧ place < later.stop) := by
    constructor
    intro earlier later
    omega
  apply Classical.byContradiction
  intro different
  exact apart.forall member otherMember different
    ⟨within.1, within.2, otherWithin.1, otherWithin.2⟩

/-- In no gap behind a place does the name stand. -/
theorem not_standsAt_of_mem_gapBounds {bounds : Nat × Nat}
    (member : bounds ∈ gapBounds cursor.offset (Text.utf8Length cursor.text)
      (invocations name cursor))
    {place : Nat} (begun : bounds.1 ≤ place) (unended : place < bounds.2) :
    ¬ StandsAt name cursor.text place := by
  induction cursor using Cursor.walk_induction named with
  | absent cursor search =>
    rw [invocations_of_none search] at member
    obtain rfl := List.mem_singleton.1 member
    exact not_standsAt_of_next?_none named search begun
  | present cursor occurrence search behind =>
    rw [invocations_of_some named search, gapBounds] at member
    rcases List.mem_cons.1 member with rfl | inBehind
    · intro stands
      exact absurd (start_le_of_standsAt named search stands begun) (Nat.not_le_of_lt unended)
    · rw [← text_behind search, ← offset_behind search] at inBehind
      rw [← text_behind search]
      exact behind inBehind

/-- The gaps behind a place, and the texts of the invocations between them, make up the text
behind the place. -/
theorem exists_interleave_eq_after {text : Text} (whole : cursor.text = text) :
    ∃ gaps sources,
      List.Forall₂ (fun bounds gap => Text.slice? text bounds.1 bounds.2 = some gap)
        (gapBounds cursor.offset (Text.utf8Length text) (invocations name cursor)) gaps ∧
      List.Forall₂ (fun invocation source => invocation.source? text = some source)
        (invocations name cursor) sources ∧
      interleave gaps sources = cursor.after := by
  induction cursor using Cursor.walk_induction named with
  | absent cursor search =>
    rw [invocations_of_none search, ← whole]
    refine ⟨[cursor.after], [], List.Forall₂.cons ?_ .nil, .nil, List.flatten_singleton⟩
    simpa [Cursor.text, Cursor.offset] using Text.slice?_append cursor.before cursor.after []
  | present cursor occurrence search behind =>
    obtain ⟨gaps, sources, gapped, sourced, joined⟩ := behind ((text_behind search).trans whole)
    -- The gap runs from the place to the invocation, whose text comes next.
    obtain ⟨split, start, -⟩ := Applier.invocation_places search
    rw [offset_behind search] at gapped
    rw [invocations_of_some named search, gapBounds]
    refine ⟨occurrence.before :: gaps, occurrence.source :: sources,
      List.Forall₂.cons ?_ gapped, List.Forall₂.cons ?_ sourced, ?_⟩
    · rw [start, ← whole, split, List.append_assoc _ occurrence.source]
      exact Text.slice?_append cursor.before occurrence.before _
    · rw [← whole]
      exact Applier.source?_invocation search
    · rw [interleave, joined, occurrence?_text search]
      rfl

end Walk

/-- Searching a text for a name that is not empty, from the start and then from the end of
each invocation, comes to an end with invocations that tile the text. Each takes something
up and ends in front of the next. Where the name stands, exactly one of them starts or
has begun and not ended. The gaps and the texts of the invocations in turn are the text,
and the name stands nowhere in a gap. -/
theorem invocations_tile {name : Text} (named : name ≠ []) (text : Text) :
    let found := invocations name (.start text)
    let bounds := gapBounds 0 (Text.utf8Length text) found
    (∀ list, Searched name text 0 list ↔ list = found) ∧
    (∀ invocation ∈ found, invocation.start < invocation.stop) ∧
    found.Pairwise (fun earlier later =>
      earlier.start < later.start ∧ earlier.stop ≤ later.start) ∧
    (∀ place, StandsAt name text place → ∃! invocation, invocation ∈ found ∧
      (invocation.start = place ∨ invocation.start < place ∧ place < invocation.stop)) ∧
    (∃ gaps sources,
      List.Forall₂ (fun bounds gap => Text.slice? text bounds.1 bounds.2 = some gap) bounds gaps ∧
      List.Forall₂ (fun invocation source => invocation.source? text = some source)
        found sources ∧
      interleave gaps sources = text) ∧
    ∀ gap ∈ bounds, ∀ place, gap.1 ≤ place → place < gap.2 → ¬ StandsAt name text place := by
  intro found bounds
  have searched : Searched name text 0 found := searched_invocations named (.start text)
  have filled {invocation : Invocation} (member : invocation ∈ found) :
      invocation.start < invocation.stop :=
    (bounds_of_mem_invocations named (.start text) member).2
  refine ⟨?_, fun _ => filled, pairwise_invocations named (.start text), ?_,
    exists_interleave_eq_after named (.start text) rfl, ?_⟩
  · intro list
    constructor
    · intro otherwise
      exact otherwise.unique searched
    · rintro rfl
      exact searched
  · intro place stands
    obtain ⟨invocation, member, begun, unended⟩ :=
      exists_invocation_of_standsAt named (.start text) stands (Nat.zero_le place)
    refine ⟨invocation, ⟨member, by omega⟩, ?_⟩
    -- Two invocations around one place would overlap.
    rintro other ⟨otherMember, within⟩
    have otherFilled := filled otherMember
    exact eq_of_mem_invocations named (.start text) otherMember member (by omega)
      ⟨begun, unended⟩
  · intro gap member place begun unended
    exact not_standsAt_of_mem_gapBounds named (.start text) member begun unended

/-- A position in an argument is passed over with the invocation around it, and a list that
is never closed takes nothing in. -/
theorem invocations_tile_swallowed :
    "$__x".toList ≠ [] ∧
      invocations "$__x".toList (.start "ü$__x($__x)$__x(($__x".toList) =
        [ ⟨"$__x".toList, 2, 12, ["$__x".toList]⟩, ⟨"$__x".toList, 12, 16, []⟩,
          ⟨"$__x".toList, 18, 22, []⟩] ∧
      StandsAt "$__x".toList "ü$__x($__x)$__x(($__x".toList 7 ∧
      ∃! invocation, invocation ∈
          invocations "$__x".toList (.start "ü$__x($__x)$__x(($__x".toList) ∧
        (invocation.start = 7 ∨ invocation.start < 7 ∧ 7 < invocation.stop) := by
  have named : "$__x".toList ≠ [] := by decide
  have tiled := invocations_tile named "ü$__x($__x)$__x(($__x".toList
  have searched : Searched "$__x".toList "ü$__x($__x)$__x(($__x".toList 0
      [ ⟨"$__x".toList, 2, 12, ["$__x".toList]⟩, ⟨"$__x".toList, 12, 16, []⟩,
        ⟨"$__x".toList, 18, 22, []⟩] :=
    .found (by decide +kernel) (.found (by decide +kernel)
      (.found (by decide +kernel) (.ended (by decide +kernel))))
  have stands : StandsAt "$__x".toList "ü$__x($__x)$__x(($__x".toList 7 :=
    ⟨"ü$__x(".toList, ")$__x(($__x".toList, by decide, by decide, by decide⟩
  exact ⟨named, ((tiled.1 _).1 searched).symm, stands, tiled.2.2.2.1 7 stands⟩

end QueryMacros.Macro
