import QueryMacros.Proofs.Macro.Expansion
import QueryMacros.Proofs.Macro.InPlace
import QueryMacros.Proofs.Macro.Places

/-!
# Counting expansions

Every step of a run leaves less text to search than there was: what follows the place
that a step moves to is what followed the invocation, and the replacement, however long
it is and whatever it holds, lies in front of that place. So a run ends for every
applier. How much it does can be counted by an applier that keeps a tally of its
expansions and does everything else as before. Each expansion takes up a place of the
name in the text that the run was given, so a run expands at most as often as the name
stands there, in its arguments too, and also if it ends with an error.
-/
namespace QueryMacros.Macro

variable {σ α β : Type}

/-- A state, and the number of expansions so far. -/
structure Tallied (σ : Type) where
  state : σ
  expansions : Nat

namespace Expansion

/-- An expansion with a tally does what the other one does without: the same outcome, and
the same state behind it. -/
def Follows (tallied : Expansion (Tallied σ) α) (plain : Expansion σ α) : Prop :=
  ∀ here, ((tallied here).1, (tallied here).2.state) = plain here.state

/-- The tally grows by a number at most, whether or not there is an error. -/
def AtMost (count : Nat) (tallied : Expansion (Tallied σ) α) : Prop :=
  ∀ here, (tallied here).2.expansions ≤ here.expansions + count

/-- A result that is given is followed by the same result. -/
theorem Follows.pure (a : α) : Follows (pure a : Expansion (Tallied σ) α) (pure a) :=
  fun _ => rfl

/-- A tallied run follows a plain one if its parts do. -/
theorem Follows.bind {first : Expansion (Tallied σ) α} {plainFirst : Expansion σ α}
    {second : α → Expansion (Tallied σ) β} {plainSecond : α → Expansion σ β}
    (here : Follows first plainFirst) (there : ∀ a, Follows (second a) (plainSecond a)) :
    Follows (first >>= second) (plainFirst >>= plainSecond) := by
  intro start
  have same := here start
  cases ran : first start with
  | mk outcome between =>
    rw [ran] at same
    cases outcome with
    | ok a => rw [bind_of_ok ran, bind_of_ok same.symm, there a between]
    | error fault => rw [bind_of_error ran, bind_of_error same.symm]

/-- Tallied runs over several texts follow plain ones if each of them does. -/
theorem Follows.mapM {expand : Text → Expansion (Tallied σ) β} {plain : Text → Expansion σ β}
    {texts : List Text} (each : ∀ text ∈ texts, Follows (expand text) (plain text)) :
    Follows (texts.mapM expand) (texts.mapM plain) := by
  induction texts with
  | nil => exact Follows.pure []
  | cons text texts inductionHypothesis =>
    obtain ⟨here, there⟩ := List.forall_mem_cons.1 each
    rw [List.mapM_cons, List.mapM_cons]
    apply here.bind
    intro result
    apply (inductionHypothesis there).bind
    intro results
    exact Follows.pure _

/-- A result that is given counts no expansion. -/
theorem AtMost.pure (a : α) : AtMost 0 (pure a : Expansion (Tallied σ) α) :=
  fun _ => Nat.le_refl _

/-- Two parts in turn add up, and behind an error the second adds nothing. -/
theorem AtMost.bind {first : Expansion (Tallied σ) α} {second : α → Expansion (Tallied σ) β}
    {count later : Nat} (here : AtMost count first) (there : ∀ a, AtMost later (second a)) :
    AtMost (count + later) (first >>= second) := by
  intro start
  have counted := here start
  cases ran : first start with
  | mk outcome between =>
    rw [ran] at counted
    cases outcome with
    | ok a =>
      have further := there a between
      rw [bind_of_ok ran]
      simp only at counted
      omega
    | error fault =>
      rw [bind_of_error ran]
      simp only at counted ⊢
      omega

/-- Runs over several texts count no more expansions than their bounds add up to. -/
theorem AtMost.mapM {expand : Text → Expansion (Tallied σ) β} {cost : Text → Nat}
    {texts : List Text} (each : ∀ text ∈ texts, AtMost (cost text) (expand text)) :
    AtMost (texts.map cost).sum (texts.mapM expand) := by
  induction texts with
  | nil => exact AtMost.pure []
  | cons text texts inductionHypothesis =>
    obtain ⟨here, there⟩ := List.forall_mem_cons.1 each
    rw [List.mapM_cons, List.map_cons, List.sum_cons]
    apply here.bind
    intro result
    exact (inductionHypothesis there).bind fun results => AtMost.pure _

/-- A bound on expansions may be raised. -/
theorem AtMost.weaken {tallied : Expansion (Tallied σ) α} {count more : Nat}
    (counted : AtMost count tallied) (enough : count ≤ more) : AtMost more tallied := by
  intro here
  have bound := counted here
  omega

end Expansion

namespace Applier

variable (applier : Applier σ) (context : Context σ)

/-- The applier in a context, with a tally of its expansions. It stays in that context,
whatever context a run is made in. -/
def tallied : Applier (Tallied σ) where
  name := applier.name
  named := applier.named
  expand sql invocation _ := fun here =>
    let (outcome, state) := applier.expand sql invocation context here.state
    (outcome, ⟨state, here.expansions + 1⟩)

/-- An expansion counts as one. -/
theorem atMost_expand (sql : Text) (invocation : Invocation) (other : Context (Tallied σ)) :
    Expansion.AtMost 1 ((applier.tallied context).expand sql invocation other) :=
  fun _ => Nat.le_refl _

/-- The tally changes nothing else about a run. -/
theorem follows_tallied (other : Context (Tallied σ)) (cursor : Cursor) :
    Expansion.Follows ((applier.tallied context).applyFrom other cursor)
      (applier.applyFrom context cursor) := by
  induction cursor using Cursor.search_induction applier.named with
  | absent cursor search =>
    have sameSearch : next? (applier.tallied context).name cursor = none := search
    rw [applyFrom_of_none search, applyFrom_of_none sameSearch]
    exact Expansion.Follows.pure _
  | present cursor occurrence search inArguments behind =>
    have sameSearch : next? (applier.tallied context).name cursor = some occurrence := search
    rw [applyFrom_of_some search, applyFrom_of_some sameSearch]
    apply (Expansion.Follows.mapM inArguments).bind
    intro arguments
    apply Expansion.Follows.bind
    · intro here
      rfl
    · intro replacement
      exact behind _

/-- A run from a place on expands at most as often as the name stands behind the place. The
place of the next invocation is taken by its own expansion, and the places in its arguments
and behind it are left to the runs there. -/
theorem atMost_places (other : Context (Tallied σ)) (cursor : Cursor) :
    Expansion.AtMost (places applier.name cursor.after)
      ((applier.tallied context).applyFrom other cursor) := by
  induction cursor using Cursor.search_induction (applier.tallied context).named with
  | absent cursor search =>
    rw [applyFrom_of_none search]
    exact (Expansion.AtMost.pure _).weaken (Nat.zero_le _)
  | present cursor occurrence search inArguments behind =>
    have nested : Expansion.AtMost (occurrence.arguments.map (places applier.name)).sum
        (occurrence.arguments.mapM ((applier.tallied context).applyAll other)) :=
      Expansion.AtMost.mapM inArguments
    have later (before : Text) : Expansion.AtMost (places applier.name occurrence.rest)
        ((applier.tallied context).applyFrom other ⟨before, occurrence.rest⟩) := behind before
    have counted := nested.bind fun arguments =>
      (applier.atMost_expand context cursor.text
        { occurrence.invocation applier.name cursor with arguments } other).bind
          fun replacement => later (cursor.before ++ occurrence.before ++ replacement)
    rw [applyFrom_of_some search]
    apply counted.weaken
    have found := (next?_eq_occurrence? applier.named cursor).symm.trans search
    -- The place of the invocation pays for its own expansion.
    have taken := places_occurrence applier.named found
    omega

/-- A step that finds an invocation and succeeds leaves what is in front of the invocation
as it is, and behind the place where it stops stands exactly what stood behind the
invocation. That is less than there was to search. -/
theorem applyAt_parts {cursor : Cursor} {invocation : Invocation} {answer : Option Cursor}
    {state final : σ}
    (found : findAt? applier.name cursor.text cursor.offset = some invocation)
    (stepped : applier.applyAt context cursor state = (.ok answer, final)) :
    ∃ front source rest replacement, cursor.text = front ++ source ++ rest ∧
      invocation.start = Text.utf8Length front ∧
      invocation.stop = Text.utf8Length (front ++ source) ∧
      answer = some ⟨front ++ replacement, rest⟩ ∧
      Text.utf8Length rest < Text.utf8Length cursor.after := by
  obtain ⟨occurrence, search, rfl⟩ :=
    Option.map_eq_some_iff.1 ((findAt?_offset applier.name cursor).symm.trans found)
  obtain ⟨split, start, stop⟩ := invocation_places search
  rw [applyAt, search] at stepped
  obtain ⟨arguments, between, -, stepped⟩ := Expansion.bind_eq_ok.1 stepped
  obtain ⟨replacement, last, -, stepped⟩ := Expansion.bind_eq_ok.1 stepped
  obtain ⟨rfl, -⟩ := Expansion.pure_eq_ok.1 stepped
  exact ⟨_, _, _, replacement, split, start, stop, rfl,
    occurrence?_rest_bytes applier.named search⟩

/-- Whatever an applier expands to, each step makes progress, and a run expands at most
once for each place of the name. A step that finds an invocation leaves the text in front
of it as it is and stops where exactly the text behind it stands, which is less than there
was to search. A run that keeps a tally has the outcome and the state of the run without,
and the tally, over nested arguments and up to an error if there is one, is at most the
number of places at which the name stands in the text. -/
theorem expansions_le_places :
    (∀ (cursor : Cursor) (invocation : Invocation) (state : σ) (answer : Option Cursor)
        (final : σ), findAt? applier.name cursor.text cursor.offset = some invocation →
      applier.applyAt context cursor state = (.ok answer, final) →
        ∃ front source rest replacement, cursor.text = front ++ source ++ rest ∧
          invocation.start = Text.utf8Length front ∧
          invocation.stop = Text.utf8Length (front ++ source) ∧
          answer = some ⟨front ++ replacement, rest⟩ ∧
          Text.utf8Length rest < Text.utf8Length cursor.after) ∧
    ∀ (text : Text) (state : σ),
      let counted := (applier.tallied context).applyAll .empty text ⟨state, 0⟩
      (counted.1, counted.2.state) = applier.applyAll context text state ∧
        counted.2.expansions ≤ places applier.name text := by
  constructor
  · intro cursor invocation state answer final found stepped
    exact applier.applyAt_parts context found stepped
  · intro text state
    have bounded := applier.atMost_places context .empty (.start text) ⟨state, 0⟩
    rw [Nat.zero_add] at bounded
    exact ⟨applier.follows_tallied context .empty (.start text) ⟨state, 0⟩, bounded⟩

/-- An applier that expands to two invocations of itself. -/
def doubling : Applier Unit :=
  .template "$__x".toList (by decide) 0 [.literal "$__x $__x()".toList]

/-- A step of an applier that doubles its invocations stops behind the two that it makes,
and a run expands no more than the two of the text. -/
theorem expansions_le_places_doubling :
    findAt? doubling.name "ü $__x, $__x()".toList 0 = some ⟨"$__x".toList, 3, 7, []⟩ ∧
      doubling.applyAt .empty (.start "ü $__x, $__x()".toList) () =
        (.ok (some ⟨"ü $__x $__x()".toList, ", $__x()".toList⟩), ()) ∧
      (∃ front source rest replacement, "ü $__x, $__x()".toList = front ++ source ++ rest ∧
        Text.utf8Length front = 3 ∧ Text.utf8Length (front ++ source) = 7 ∧
        "ü $__x $__x()".toList = front ++ replacement ∧ ", $__x()".toList = rest) ∧
      places doubling.name "ü $__x, $__x()".toList = 2 ∧
      ((doubling.tallied .empty).applyAll .empty "ü $__x, $__x()".toList ⟨(), 0⟩).2.expansions ≤
        2 := by
  have found : findAt? doubling.name "ü $__x, $__x()".toList 0 =
      some ⟨"$__x".toList, 3, 7, []⟩ := by decide +kernel
  have search : next? doubling.name (.start "ü $__x, $__x()".toList) =
      some ⟨"ü ".toList, [], "$__x".toList, ", $__x()".toList⟩ := by decide +kernel
  have stepped : doubling.applyAt .empty (.start "ü $__x, $__x()".toList) () =
      (.ok (some ⟨"ü $__x $__x()".toList, ", $__x()".toList⟩), ()) := by
    rw [applyAt, search]
    rfl
  have counted : places doubling.name "ü $__x, $__x()".toList = 2 := by decide +kernel
  obtain ⟨steps, runs⟩ := expansions_le_places doubling .empty
  obtain ⟨front, source, rest, replacement, split, start, stop, moved, -⟩ :=
    steps (.start "ü $__x, $__x()".toList) _ _ _ _ found stepped
  obtain ⟨settled, left⟩ := Cursor.mk.inj (Option.some.inj moved)
  refine ⟨found, stepped, ⟨front, source, rest, replacement, split, start.symm, stop.symm,
    settled, left⟩, counted, ?_⟩
  rw [← counted]
  exact (runs _ ()).2

end Applier

end QueryMacros.Macro
