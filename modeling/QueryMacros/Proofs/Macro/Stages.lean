import QueryMacros.Proofs.Macro.Expansion
import QueryMacros.Proofs.Macro.Rewriting

/-!
# The stages of a run

A run expands one invocation after the other, and each expansion is given the text as it
stands at that moment. A run is therefore known by its *replacements*, the texts that it
puts in place of the invocations; and if they are all one text, then the texts that the
expansions are given, the *stages* of the run, are known beforehand. That every stage
expands to that text is what it takes, and no less will do.
-/
namespace QueryMacros.Macro

variable {σ : Type}

/-! ## Arguments -/

/-- The invocation of a name without arguments, at the start of a text. -/
def bareCall (name : Text) : Invocation := ⟨name, 0, 0, []⟩

section Invocations

variable {name : Text} {cursor : Cursor} {occurrence : Occurrence}

/-- Where there is no further invocation, none is listed. -/
theorem invocations_of_none (absent : next? name cursor = none) : invocations name cursor = [] := by
  rw [invocations, absent]

/-- The next invocation comes first, and then those behind it. -/
theorem invocations_of_some (named : name ≠ []) (present : next? name cursor = some occurrence) :
    invocations name cursor =
      occurrence.invocation name cursor :: invocations name (occurrence.behind cursor) := by
  have shorter := occurrence?_rest_length named present
  rw [invocations, present]
  simp only [shorter, ↓reduceIte]

/-- A search does not depend on what stands in front of the place. -/
theorem next?_of_after_eq (named : name ≠ []) {other : Cursor}
    (same : cursor.after = other.after) : next? name cursor = next? name other := by
  rw [next?_eq_occurrence? named, next?_eq_occurrence? named, same]

/-- The arguments of the invocations do not depend on what stands in front of the place. -/
theorem map_arguments_invocations (named : name ≠ []) {other : Cursor}
    (same : cursor.after = other.after) :
    (invocations name cursor).map (·.arguments) = (invocations name other).map (·.arguments) := by
  induction cursor using Cursor.search_induction named generalizing other with
  | absent cursor search =>
    have otherSearch := (next?_of_after_eq named same).symm.trans search
    rw [invocations_of_none search, invocations_of_none otherSearch]
  | present cursor occurrence search inArguments behind =>
    have otherSearch := (next?_of_after_eq named same).symm.trans search
    rw [invocations_of_some named search, invocations_of_some named otherSearch, List.map_cons,
      List.map_cons]
    have later := behind (occurrence.behind cursor).before
      (show occurrence.rest = (occurrence.behind other).after from rfl)
    exact congrArg _ later

end Invocations

/-! ## Texts of a run -/

/-- The whole text when the next invocations behind a place have become the given texts. -/
def weave (name : Text) : Cursor → List Text → Text
  | cursor, [] => cursor.text
  | cursor, replacement :: others =>
      match next? name cursor with
      | none => cursor.text
      | some occurrence =>
          weave name ⟨cursor.before ++ occurrence.before ++ replacement, occurrence.rest⟩ others

/-- The same text for every invocation behind a place. -/
def alike (name replacement : Text) (cursor : Cursor) : List Text :=
  List.replicate (invocations name cursor).length replacement

/-- The texts in which the invocations behind a place are found, if each of them becomes
the same text. An empty name can occur without taking up any text, and the list ends with
such an occurrence. -/
def stages (name replacement : Text) (cursor : Cursor) : List Text :=
  match next? name cursor with
  | none => []
  | some occurrence =>
      if occurrence.rest.length < cursor.after.length then
        cursor.text :: stages name replacement
          ⟨cursor.before ++ occurrence.before ++ replacement, occurrence.rest⟩
      else [cursor.text]
termination_by cursor.after.length
decreasing_by assumption

section Stages

variable {name replacement : Text} {cursor : Cursor} {occurrence : Occurrence}

/-- A run that finds no invocation has no stages. -/
theorem stages_of_none (absent : next? name cursor = none) :
    stages name replacement cursor = [] := by
  rw [stages, absent]

/-- The text that the next invocation is expanded in is the first stage; the others are
those of the rewritten text. -/
theorem stages_of_some (named : name ≠ []) (present : next? name cursor = some occurrence) :
    stages name replacement cursor = cursor.text :: stages name replacement
      ⟨cursor.before ++ occurrence.before ++ replacement, occurrence.rest⟩ := by
  have shorter := occurrence?_rest_length named present
  rw [stages, present]
  simp only [shorter, ↓reduceIte]

/-- Every stage begins with what stands in front of the place. -/
theorem before_prefix_of_mem_stages (named : name ≠ []) {stage : Text}
    (member : stage ∈ stages name replacement cursor) : cursor.before <+: stage := by
  induction cursor using Cursor.search_induction named with
  | absent cursor search =>
    rw [stages_of_none search] at member
    cases member
  | present cursor occurrence search inArguments behind =>
    rw [stages_of_some named search] at member
    rcases List.mem_cons.1 member with rfl | later
    · exact List.prefix_append _ _
    · have longer := behind _ later
      rw [List.append_assoc] at longer
      exact (List.prefix_append _ _).trans longer

/-- Every stage begins with what stands in front of the first invocation. -/
theorem front_prefix_of_mem_stages (named : name ≠ [])
    (present : next? name cursor = some occurrence) {stage : Text}
    (member : stage ∈ stages name replacement cursor) :
    cursor.before ++ occurrence.before <+: stage := by
  rw [stages_of_some named present] at member
  rcases List.mem_cons.1 member with rfl | later
  · rw [Cursor.text, occurrence?_text present, List.append_assoc, ← List.append_assoc cursor.before]
    exact List.prefix_append _ _
  · exact (List.prefix_append _ _).trans (before_prefix_of_mem_stages named later)

end Stages

namespace Applier

/-! ## Replacements -/

/-- The texts that a run puts in place of the invocations behind a place, in order. -/
def replacements (applier : Applier σ) (context : Context σ) (cursor : Cursor) :
    Expansion σ (List Text) :=
  match _found : next? applier.name cursor with
  | none => return []
  | some occurrence => do
      let arguments ← occurrence.arguments.mapM (applier.applyAll context)
      let invocation := { occurrence.invocation applier.name cursor with arguments }
      let replacement ← applier.expand cursor.text invocation context
      let others ← applier.replacements context
        ⟨cursor.before ++ occurrence.before ++ replacement, occurrence.rest⟩
      return replacement :: others
termination_by cursor.after.length
decreasing_by exact occurrence?_rest_length applier.named ‹_›

section Unfolding

variable {applier : Applier σ} {context : Context σ} {cursor : Cursor} {occurrence : Occurrence}

/-- A run that finds no invocation makes no replacement. -/
theorem replacements_of_none (absent : next? applier.name cursor = none) :
    applier.replacements context cursor = pure [] := by
  rw [replacements]
  split
  · rfl
  · next found => simp [absent] at found

/-- The next invocation is expanded first, with its arguments expanded before it, and
then those behind its replacement. -/
theorem replacements_of_some (present : next? applier.name cursor = some occurrence) :
    applier.replacements context cursor = (do
      let arguments ← occurrence.arguments.mapM (applier.applyAll context)
      let replacement ← applier.expand cursor.text
        { occurrence.invocation applier.name cursor with arguments } context
      let others ← applier.replacements context
        ⟨cursor.before ++ occurrence.before ++ replacement, occurrence.rest⟩
      return replacement :: others) := by
  rw [replacements]
  split
  · next absent => simp [present] at absent
  · next found =>
    obtain rfl := Option.some.inj (present.symm.trans found)
    rfl

end Unfolding

/-- A run puts its replacements in place of the invocations. -/
theorem applyFrom_eq_weave (applier : Applier σ) (context : Context σ) (cursor : Cursor) :
    applier.applyFrom context cursor =
      weave applier.name cursor <$> applier.replacements context cursor := by
  induction cursor using Cursor.search_induction applier.named with
  | absent cursor search =>
    rw [applyFrom_of_none search, replacements_of_none search, map_pure]
    rfl
  | present cursor occurrence search inArguments behind =>
    have woven (replacement : Text) (others : List Text) :
        weave applier.name cursor (replacement :: others) = weave applier.name
          ⟨cursor.before ++ occurrence.before ++ replacement, occurrence.rest⟩ others := by
      rw [weave, search]
    rw [applyFrom_of_some search, replacements_of_some search]
    simp only [behind, map_eq_pure_bind, bind_assoc, pure_bind, woven]

/-! ## One text for all invocations -/

/-- The outcome of an expansion without arguments depends on the whole text alone, and not
on the place or on the state. -/
def Steady (applier : Applier σ) (context : Context σ) : Prop :=
  ∀ (sql : Text) (here there : Invocation) (state other : σ), here.name = there.name →
    here.arguments = [] → there.arguments = [] →
      (applier.expand sql here context state).1 = (applier.expand sql there context other).1

/-- The outcome of a run is a result just when the run ends with it in some state. -/
theorem fst_eq_ok {α : Type} {run : Expansion σ α} {state : σ} {a : α} :
    (run state).1 = .ok a ↔ ∃ final, run state = (.ok a, final) := by
  constructor
  · intro succeeded
    exact ⟨(run state).2, Prod.ext succeeded rfl⟩
  · rintro ⟨final, succeeded⟩
    rw [succeeded]

/-- A run over an invocation without arguments expands it, and goes on behind what it
becomes. Without arguments nothing else is expanded before it. -/
theorem replacements_eq_ok_cons {applier : Applier σ} {context : Context σ} {cursor : Cursor}
    {occurrence : Occurrence} (search : next? applier.name cursor = some occurrence)
    (bare : occurrence.arguments = []) {replacement : Text} {others : List Text}
    {state final : σ} :
    applier.replacements context cursor state = (.ok (replacement :: others), final) ↔
      ∃ between, applier.expand cursor.text (occurrence.invocation applier.name cursor) context
          state = (.ok replacement, between) ∧
        applier.replacements context
          ⟨cursor.before ++ occurrence.before ++ replacement, occurrence.rest⟩ between =
            (.ok others, final) := by
  have called : { occurrence.invocation applier.name cursor with arguments := [] } =
      occurrence.invocation applier.name cursor := by
    rw [Occurrence.invocation, bare]
  rw [replacements_of_some search, bare, List.mapM_nil, pure_bind, called]
  constructor
  · intro ran
    obtain ⟨text, between, expanded, ran⟩ := Expansion.bind_eq_ok.1 ran
    obtain ⟨later, _, ranBehind, ran⟩ := Expansion.bind_eq_ok.1 ran
    obtain ⟨same, rfl⟩ := Expansion.pure_eq_ok.1 ran
    obtain ⟨rfl, rfl⟩ := List.cons.inj same
    exact ⟨between, expanded, ranBehind⟩
  · rintro ⟨between, expanded, ranBehind⟩
    rw [Expansion.bind_of_ok expanded, Expansion.bind_of_ok ranBehind]
    rfl

/-- Every invocation becomes a text exactly if every stage expands to it. The induction is
along the search; the next stage is the next text of the run because the
replacement so far is the expected one. -/
theorem replacements_eq_alike_iff {applier : Applier σ} {context : Context σ}
    (steady : applier.Steady context) {cursor : Cursor}
    (bare : ∀ invocation ∈ invocations applier.name cursor, invocation.arguments = [])
    (replacement : Text) (state first : σ) :
    (applier.replacements context cursor state).1 =
        .ok (alike applier.name replacement cursor) ↔
      ∀ stage ∈ stages applier.name replacement cursor,
        (applier.expand stage (bareCall applier.name) context first).1 = .ok replacement := by
  induction cursor using Cursor.search_induction applier.named generalizing state with
  | absent cursor search =>
    rw [replacements_of_none search, stages_of_none search, alike, invocations_of_none search]
    simp only [List.not_mem_nil, false_imp_iff, implies_true, iff_true]
    rfl
  | present cursor occurrence search inArguments behind =>
    rw [alike, invocations_of_some applier.named search]
    rw [invocations_of_some applier.named search] at bare
    obtain ⟨noArguments, bareBehind⟩ := List.forall_mem_cons.1 bare
    -- What is left is the same text, wherever it stands.
    have sameArguments := map_arguments_invocations applier.named
      (show (occurrence.behind cursor).after = (Cursor.after
        ⟨cursor.before ++ occurrence.before ++ replacement, occurrence.rest⟩) from rfl)
    have sameLength := congrArg List.length sameArguments
    rw [List.length_map, List.length_map] at sameLength
    have bareNext : ∀ invocation ∈ invocations applier.name
        ⟨cursor.before ++ occurrence.before ++ replacement, occurrence.rest⟩,
        invocation.arguments = [] := by
      intro invocation member
      have among := List.mem_map_of_mem (f := (·.arguments)) member
      rw [← sameArguments] at among
      obtain ⟨other, otherMember, same⟩ := List.mem_map.1 among
      rw [← same]
      exact bareBehind other otherMember
    have here := steady cursor.text (occurrence.invocation applier.name cursor)
      (bareCall applier.name) state first rfl noArguments rfl
    rw [stages_of_some applier.named search, List.forall_mem_cons, ← here, List.length_cons,
      List.replicate_succ, fst_eq_ok, fst_eq_ok, sameLength]
    simp only [replacements_eq_ok_cons search noArguments]
    constructor
    · rintro ⟨final, between, expanded, ran⟩
      exact ⟨⟨between, expanded⟩, (behind _ bareNext between).1 (fst_eq_ok.2 ⟨final, ran⟩)⟩
    · rintro ⟨⟨between, expanded⟩, later⟩
      obtain ⟨final, ran⟩ := fst_eq_ok.1 ((behind _ bareNext between).2 later)
      exact ⟨final, between, expanded, ran⟩

end Applier

end QueryMacros.Macro
