import QueryMacros.Proofs.Macro.InPlace
import QueryMacros.Proofs.Macro.Expansion
import QueryMacros.Registry

/-!
# Runs in place

A whole run can be made at byte offsets: an invocation is found from an offset on, its own
text and the texts around it are cut out, the replacement is put between these, and the
search goes on from an offset that is computed from the replacement. Every cut is checked,
and so is the promise that each step leaves less text to search; the arguments of an
invocation are expanded by runs of the same kind. No fault comes up in any run, whatever
the appliers expand to: a run in place has the outcome of the run, be it a text or an
error.
-/
namespace QueryMacros

namespace Macro

variable {σ α β : Type}

/-- A run at byte offsets. Besides the errors of a run it may end with a fault. -/
abbrev Checked (σ : Type) := ExceptT Fault (Expansion σ)

namespace Checked

/-- A reading as a part of a run. -/
def ofReading (outcome : Except Fault α) : Checked σ α := ExceptT.mk (pure outcome)

/-- A run in which no fault comes up. -/
def faultless (run : Expansion σ α) : Checked σ α := ExceptT.lift run

/-- A reading without a fault is a part of a run without one. -/
theorem ofReading_ok (a : α) : (ofReading (.ok a) : Checked σ α) = faultless (pure a) := rfl

/-- A result that is given is a run without faults. -/
theorem faultless_pure (a : α) : (faultless (pure a) : Checked σ α) = pure a := rfl

/-- A run has no faults if its parts have none. -/
theorem faultless_bind (first : Expansion σ α) (second : α → Expansion σ β) :
    faultless (first >>= second) = faultless first >>= fun a => faultless (second a) :=
  monadLift_bind (n := Checked σ) first second

/-- Runs over several texts have no faults if none of them has one. -/
theorem faultless_mapM {expand : Text → Expansion σ β} {expandChecked : Text → Checked σ β}
    {texts : List Text} (each : ∀ text ∈ texts, expandChecked text = faultless (expand text)) :
    texts.mapM expandChecked = faultless (texts.mapM expand) := by
  induction texts with
  | nil => rfl
  | cons text texts inductionHypothesis =>
    obtain ⟨here, there⟩ := List.forall_mem_cons.1 each
    simp only [List.mapM_cons, here, inductionHypothesis there, faultless_bind, faultless_pure]

end Checked

open Checked

namespace Applier

/-- Expands the first invocation at or behind a byte offset, in place. It gives the changed
text and the offset behind the replacement. The arguments are expanded by a given run. -/
def applyInPlace (applier : Applier σ) (context : Context σ)
    (expandArgument : Text → Checked σ Text) (sql : Text) (offset : Nat) :
    Checked σ (Option (Text × Nat)) := do
  match ← ofReading (findInPlace applier.name sql offset) with
  | none => return none
  | some invocation =>
      let arguments ← invocation.arguments.mapM expandArgument
      let replacement ← faultless (applier.expand sql { invocation with arguments } context)
      let some _ := invocation.source? sql | throw (.slice invocation.start invocation.stop)
      let some changed := invocation.replaceIn? sql replacement
        | throw (.slice invocation.start invocation.stop)
      return some (changed, invocation.start + Text.utf8Length replacement)

/-- Expands every invocation at or behind a byte offset, in place. -/
def runInPlace (applier : Applier σ) (context : Context σ) (sql : Text) (offset : Nat) :
    Checked σ Text := do
  let left := Text.utf8Length sql - offset
  let expandArgument argument :=
    if _shorter : Text.utf8Length argument < left then applier.runInPlace context argument 0
    else throw .standstill
  match ← applier.applyInPlace context expandArgument sql offset with
  | none => return sql
  | some (changed, resume) =>
      if _shorter : Text.utf8Length changed - resume < left then
        applier.runInPlace context changed resume
      else throw .standstill
termination_by Text.utf8Length sql - offset

/-- The offsets of an invocation are places of the text, in order and apart, and none of
them lies in front of the place where the search began. -/
theorem invocation_in_range {name : Text} {cursor : Cursor} {occurrence : Occurrence}
    (named : name ≠ []) (found : next? name cursor = some occurrence) :
    cursor.offset ≤ (occurrence.invocation name cursor).start ∧
      (occurrence.invocation name cursor).start < (occurrence.invocation name cursor).stop ∧
      (occurrence.invocation name cursor).stop ≤ Text.utf8Length cursor.text ∧
      Text.IsPlace cursor.text (occurrence.invocation name cursor).start ∧
      Text.IsPlace cursor.text (occurrence.invocation name cursor).stop := by
  obtain ⟨split, start, stop⟩ := invocation_places found
  have filled := Text.utf8Length_pos (occurrence?_source_ne_nil named found)
  have atStart : Text.IsPlace cursor.text (occurrence.invocation name cursor).start := by
    rw [split, start, List.append_assoc _ occurrence.source]
    exact Text.isPlace_append _ _
  have atStop : Text.IsPlace cursor.text (occurrence.invocation name cursor).stop := by
    rw [split, stop]
    exact Text.isPlace_append _ _
  refine ⟨Nat.le_add_right _ _, ?_, atStop.le_length, atStart, atStop⟩
  exact Nat.lt_add_of_pos_right filled

/-- The text of an invocation can be cut out where it stands. -/
theorem source?_invocation {name : Text} {cursor : Cursor} {occurrence : Occurrence}
    (found : next? name cursor = some occurrence) :
    (occurrence.invocation name cursor).source? cursor.text = some occurrence.source := by
  obtain ⟨split, start, stop⟩ := invocation_places found
  have ordered : Text.utf8Length (cursor.before ++ occurrence.before) ≤
      Text.utf8Length (cursor.before ++ occurrence.before ++ occurrence.source) := by
    rw [Text.utf8Length_append _ occurrence.source]
    exact Nat.le_add_right _ _
  have width : Text.utf8Length (cursor.before ++ occurrence.before ++ occurrence.source) -
      Text.utf8Length (cursor.before ++ occurrence.before) =
        Text.utf8Length occurrence.source := by
    rw [Text.utf8Length_append _ occurrence.source]
    exact Nat.add_sub_cancel_left _ _
  rw [Invocation.source?, start, stop, split, List.append_assoc _ occurrence.source]
  simp only [Text.cutAt?_utf8Length, width, ordered, Option.bind_eq_bind, Option.bind_some,
    if_true]

/-- There is no step in place where no invocation is left. -/
theorem applyInPlace_of_none {applier : Applier σ} {context : Context σ}
    {expandArgument : Text → Checked σ Text} {cursor : Cursor}
    (absent : next? applier.name cursor = none) :
    applier.applyInPlace context expandArgument cursor.text cursor.offset = pure none := by
  rw [applyInPlace, findInPlace_eq, findAt?_offset, absent]
  rfl

/-- A step in place replaces the next invocation without a fault, if its arguments are
expanded without a fault. -/
theorem applyInPlace_of_some {applier : Applier σ} {context : Context σ}
    {expandArgument : Text → Checked σ Text} {cursor : Cursor} {occurrence : Occurrence}
    (present : next? applier.name cursor = some occurrence)
    (inArguments : ∀ argument ∈ occurrence.arguments,
      expandArgument argument = faultless (applier.applyAll context argument)) :
    applier.applyInPlace context expandArgument cursor.text cursor.offset = faultless (do
      let arguments ← occurrence.arguments.mapM (applier.applyAll context)
      let replacement ← applier.expand cursor.text
        { occurrence.invocation applier.name cursor with arguments } context
      let next : Cursor := ⟨cursor.before ++ occurrence.before ++ replacement, occurrence.rest⟩
      return some (next.text, next.offset)) := by
  have expanded : (occurrence.invocation applier.name cursor).arguments.mapM expandArgument =
      faultless (occurrence.arguments.mapM (applier.applyAll context)) :=
    faultless_mapM inArguments
  have resumed (replacement : Text) :
      (occurrence.invocation applier.name cursor).start + Text.utf8Length replacement =
        Text.utf8Length (cursor.before ++ occurrence.before ++ replacement) := by
    rw [Text.utf8Length_append _ replacement, (invocation_places present).2.1]
  rw [applyInPlace, findInPlace_eq, ofReading_ok, findAt?_offset, present]
  simp only [faultless_pure, faultless_bind, pure_bind, Option.map_some, expanded,
    source?_invocation present, replaceIn?_invocation present, resumed]
  rfl

/-- A run in place from the offset of a place is the run from the place, and no fault comes
up. The bytes that are left to search become fewer with each step and in each argument, so
the checks for progress are passed. -/
theorem runInPlace_offset (applier : Applier σ) (context : Context σ) (cursor : Cursor) :
    applier.runInPlace context cursor.text cursor.offset =
      faultless (applier.applyFrom context cursor) := by
  have measured (place : Cursor) : Text.utf8Length place.text - place.offset =
      Text.utf8Length place.after := by
    rw [Cursor.text, Text.utf8Length_append]
    exact Nat.add_sub_cancel_left _ _
  induction cursor using Cursor.search_induction applier.named with
  | absent cursor search =>
    rw [runInPlace, applyInPlace_of_none search, applyFrom_of_none search]
    rfl
  | present cursor occurrence search inArguments behind =>
    have expanded : ∀ argument ∈ occurrence.arguments,
        (if _shorter : Text.utf8Length argument < Text.utf8Length cursor.text - cursor.offset then
          applier.runInPlace context argument 0
        else throw .standstill) = faultless (applier.applyAll context argument) := by
      intro argument member
      have shorter := occurrence?_argument_bytes search member
      rw [measured, dif_pos shorter]
      exact inArguments argument member
    have fewer (before : Text) : Text.utf8Length (Cursor.text ⟨before, occurrence.rest⟩) -
        Cursor.offset ⟨before, occurrence.rest⟩ < Text.utf8Length cursor.text - cursor.offset := by
      rw [measured, measured]
      exact occurrence?_rest_bytes applier.named search
    rw [runInPlace, applyInPlace_of_some search expanded, applyFrom_of_some search]
    simp only [faultless_bind, faultless_pure, bind_assoc, pure_bind, fewer, dite_true, behind]

/-- With the arguments expanded by runs in place, a step is one turn in the whole text. -/
theorem applyInPlace_eq_replaceNext (applier : Applier σ) (context : Context σ)
    (cursor : Cursor) :
    applier.applyInPlace context (applier.runInPlace context · 0) cursor.text cursor.offset =
      faultless (applier.replaceNext context cursor.text cursor.offset) := by
  rw [replaceNext_offset, applyAt]
  cases search : next? applier.name cursor with
  | none => exact applyInPlace_of_none search
  | some occurrence =>
    have expanded : ∀ argument ∈ occurrence.arguments,
        applier.runInPlace context argument 0 = faultless (applier.applyAll context argument) :=
      fun argument _ => applier.runInPlace_offset context (.start argument)
    rw [applyInPlace_of_some search expanded]
    simp only [map_bind, map_pure, Option.map_some]

/-- A turn that changes the text stops at a place of the changed text. -/
theorem isPlace_replaceNext {applier : Applier σ} {context : Context σ} (cursor : Cursor)
    {state final : σ} {changed : Text} {resume : Nat}
    (stepped : applier.replaceNext context cursor.text cursor.offset state =
      (.ok (some (changed, resume)), final)) : Text.IsPlace changed resume := by
  rw [replaceNext_offset, map_eq_pure_bind, Expansion.bind_eq_ok] at stepped
  obtain ⟨answer, between, -, same⟩ := stepped
  obtain ⟨moved, -⟩ := Expansion.pure_eq_ok.1 same
  obtain ⟨next, -, place⟩ := Option.map_eq_some_iff.1 moved
  obtain ⟨rfl, rfl⟩ := Prod.mk.inj place
  exact Text.isPlace_append _ _

end Applier

end Macro

namespace Registry

open Macro Macro.Checked

variable {σ : Type}

/-- Expands a query by every applier of a registry in turn, in place. -/
def runInPlace (registry : Registry σ) (context : Context σ) (sql : Text) : Checked σ Text :=
  registry.appliers.foldlM (fun text applier => applier.runInPlace context text 0) sql

/-- A run of a registry in place is its run, and no fault comes up. -/
theorem runInPlace_eq (registry : Registry σ) (context : Context σ) (sql : Text) :
    registry.runInPlace context sql = faultless (registry.apply context sql) := by
  obtain ⟨appliers⟩ := registry
  unfold runInPlace apply
  induction appliers generalizing sql with
  | nil => rfl
  | cons applier appliers inductionHypothesis =>
    have first : applier.runInPlace context sql 0 = faultless (applier.applyAll context sql) :=
      applier.runInPlace_offset context (.start sql)
    simp only [List.foldlM_cons, first, faultless_bind, inductionHypothesis]

end Registry

open Macro Macro.Checked in
/-- No offset is ever out of range, whatever the text, the place to start from and the
expansions of the applier are. A list is read from the place without closing a parenthesis
that is not open and without a part between offsets out of order. An invocation found
behind the place starts and stops at places of the text, one behind the other. A step that
expands it comes up with no fault, and it resumes at a place of the changed text. So does
every further step, and no fault comes up in a run from the place, in a run over the whole
text, or in a run of a registry. Each part is the statement about the place that the
offset leads to. -/
theorem offsets_in_range {σ : Type} (applier : Applier σ) (registry : Registry σ)
    (context : Context σ) {sql : Text} {offset : Nat} (place : Text.IsPlace sql offset) :
    (∃ parsed, parseArguments? sql offset = some parsed ∧ readInPlace sql offset = .ok parsed) ∧
    findInPlace applier.name sql offset = .ok (findAt? applier.name sql offset) ∧
    (∀ invocation, findAt? applier.name sql offset = some invocation →
      offset ≤ invocation.start ∧ invocation.start < invocation.stop ∧
        invocation.stop ≤ Text.utf8Length sql ∧
        Text.IsPlace sql invocation.start ∧ Text.IsPlace sql invocation.stop) ∧
    applier.applyInPlace context (applier.runInPlace context · 0) sql offset =
      faultless (applier.replaceNext context sql offset) ∧
    (∀ state changed resume final,
      applier.replaceNext context sql offset state = (.ok (some (changed, resume)), final) →
        resume ≤ Text.utf8Length changed ∧ Text.IsPlace changed resume) ∧
    (∃ cursor, cursor.text = sql ∧ cursor.offset = offset ∧
      applier.runInPlace context sql offset = faultless (applier.applyFrom context cursor)) ∧
    applier.runInPlace context sql 0 = faultless (applier.applyAll context sql) ∧
    registry.runInPlace context sql = faultless (registry.apply context sql) := by
  obtain ⟨before, after, rfl, rfl⟩ := place
  refine ⟨parseArguments?_eq_readInPlace before after,
    findInPlace_eq applier.name ⟨before, after⟩, ?_, ?_, ?_,
    ⟨⟨before, after⟩, rfl, rfl, applier.runInPlace_offset context ⟨before, after⟩⟩,
    applier.runInPlace_offset context (.start (before ++ after)),
    registry.runInPlace_eq context (before ++ after)⟩
  · intro invocation found
    have searched := Applier.findAt?_offset applier.name ⟨before, after⟩
    obtain ⟨occurrence, search, rfl⟩ := Option.map_eq_some_iff.1 (searched.symm.trans found)
    exact Applier.invocation_in_range applier.named search
  · exact applier.applyInPlace_eq_replaceNext context ⟨before, after⟩
  · intro state changed resume final stepped
    have resumed := Applier.isPlace_replaceNext ⟨before, after⟩ stepped
    exact ⟨resumed.le_length, resumed⟩

open Macro in
/-- An invocation between characters of several bytes. -/
theorem offsets_in_range_umlauts :
    Text.IsPlace "é $__x(ü(,)) €".toList 3 ∧
      findAt? "$__x".toList "é $__x(ü(,)) €".toList 3 =
        some ⟨"$__x".toList, 3, 14, ["ü(,)".toList]⟩ ∧
      Text.IsPlace "é $__x(ü(,)) €".toList 14 := by
  have place : Text.IsPlace "é $__x(ü(,)) €".toList 3 := ⟨"é ".toList, _, rfl, rfl⟩
  have found : findAt? "$__x".toList "é $__x(ü(,)) €".toList 3 =
      some ⟨"$__x".toList, 3, 14, ["ü(,)".toList]⟩ := by decide +kernel
  have ranged := offsets_in_range (σ := Unit)
    (.template "$__x".toList (by decide) 1 [.literal "ß".toList, .argument 0])
    .standard .empty place
  exact ⟨place, found, (ranged.2.2.1 _ found).2.2.2.2⟩

end QueryMacros
