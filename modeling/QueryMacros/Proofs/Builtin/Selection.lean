import QueryMacros.Proofs.Builtin.Dropped

/-!
# Selections and conditionals

Whether a conditional on a known variable keeps its condition is settled by what is
selected of that variable: something has to be selected that has a character, and the
value that stands for all values must not be among it. The spelling of the reference does
not enter, nor does anything else that the context holds. Of variables with the same name
the first one counts.
-/
namespace QueryMacros

open Macro Applier

variable {σ : Type}

/-- What is selected narrows a query: some value has a character, and none stands for all
values. -/
def VariableValue.Narrows (value : VariableValue) (allValue : Text) : Prop :=
  (∃ selected ∈ value.toList, selected ≠ []) ∧ ∀ selected ∈ value.toList, selected ≠ allValue

instance (value : VariableValue) (allValue : Text) : Decidable (value.Narrows allValue) :=
  inferInstanceAs (Decidable (_ ∧ _))

/-- The first variable of a name, and what is selected of it. -/
def Context.Holds (context : Context σ) (name : Text) (value : VariableValue) : Prop :=
  ∃ earlier later, context.templateVariables = earlier ++ ⟨name, value⟩ :: later ∧
    ∀ candidate ∈ earlier, candidate.name ≠ name

/-- The variable that a context finds for a name is the first one of that name. -/
theorem Context.findVariable?_of_holds {context : Context σ} {name : Text} {value : VariableValue}
    (holds : context.Holds name value) : context.findVariable? name = some ⟨name, value⟩ := by
  obtain ⟨earlier, later, split, others⟩ := holds
  refine List.find?_eq_some_iff_append.2 ⟨by simp, earlier, later, split, ?_⟩
  intro candidate member
  simpa using others candidate member

/-- A reference to a known variable is selective exactly if what is selected narrows the
query. -/
theorem Context.isSelective_of_holds {context : Context σ} {name : Text} {value : VariableValue}
    (holds : context.Holds name value) (reference : Text) :
    context.isSelective reference name = true ↔ value.Narrows context.allValue := by
  have filled : value.isEmpty = false ↔ ∃ selected ∈ value.toList, selected ≠ [] := by
    simp [VariableValue.isEmpty]
  have partly : value.isAll context.allValue = false ↔
      ∀ selected ∈ value.toList, selected ≠ context.allValue := by
    simp only [VariableValue.isAll, List.contains_eq_mem, decide_eq_false_iff_not]
    constructor
    · rintro absent selected member rfl
      exact absent member
    · intro others member
      exact others _ member rfl
  simp only [Context.isSelective, findVariable?_of_holds holds, Bool.and_eq_true,
    Bool.not_eq_true', filled, partly, VariableValue.Narrows]

/-- What narrows a query depends on the values alone, not on their order or number. -/
theorem VariableValue.narrows_congr {value other : VariableValue}
    (same : ∀ selected, selected ∈ value.toList ↔ selected ∈ other.toList) (allValue : Text) :
    value.Narrows allValue ↔ other.Narrows allValue := by
  simp only [VariableValue.Narrows, same]

section Pass

variable {context : Context σ} {condition token name : Text} {value : VariableValue}

/-- The pass of the conditional replaces a call on a known variable by its condition
without the blanks around it if what is selected narrows the query, and by what always
holds if it does not. -/
theorem meaning_conditionalCall_of_holds (droppable : Droppable condition) (isName : IsName name)
    (spelled : Spells name (Text.trim token))
    (notCall : Text.trim token ≠ Callee.conditionalAll.name) (holds : context.Holds name value)
    (behind : Text) :
    (Builtin.conditionalAll : Applier σ).meaning context
        (conditionalCall condition token ++ behind) =
      ((if value.Narrows context.allValue then Text.trim condition else Sql.always) ++ ·) <$>
        Builtin.conditionalAll.meaning context behind := by
  have refers : variableName? token = some name := Reference.name?_of_spells isName spelled
  have absent : ¬ Occurs Callee.conditionalAll.name token := fun occurs =>
    notCall (Callee.trim_of_occurs refers occurs)
  rw [meaning_conditionalCall_of_absent droppable refers absent]
  simp only [Context.isSelective_of_holds holds]

end Pass

/-- A conditional on a known variable becomes its condition if what is selected of the first
variable of the name narrows the query, and what always holds if it does not; the text
around it is kept. So two calls with one condition come to the same wherever the same
values are selected, however the references are spelled and whatever else the contexts
hold. -/
theorem applyAll_conditionalCall_of_holds {context : Context σ} {condition token name : Text}
    {value : VariableValue} (droppable : Droppable condition) (isName : IsName name)
    (spelled : Spells name (Text.trim token))
    (notCall : Text.trim token ≠ "$__conditionalAll".toList) (holds : context.Holds name value) :
    Builtin.conditionalAll.applyAll context (conditionalCall condition token) =
        pure (if value.Narrows context.allValue then Text.trim condition else Sql.always) ∧
      (∀ before behind, ¬ Occurs "$__conditionalAll".toList before →
        Builtin.conditionalAll.applyAll context
            (before ++ (conditionalCall condition token ++ behind)) = (do
          let rest ← Builtin.conditionalAll.applyAll context behind
          return before ++ ((if value.Narrows context.allValue then Text.trim condition
            else Sql.always) ++ rest))) ∧
      ∀ (otherContext : Context σ) (otherToken otherName : Text) (otherValue : VariableValue),
        IsName otherName → Spells otherName (Text.trim otherToken) →
        Text.trim otherToken ≠ "$__conditionalAll".toList →
        otherContext.Holds otherName otherValue → otherContext.allValue = context.allValue →
        (∀ selected, selected ∈ otherValue.toList ↔ selected ∈ value.toList) →
          Builtin.conditionalAll.applyAll otherContext (conditionalCall condition otherToken) =
            Builtin.conditionalAll.applyAll context (conditionalCall condition token) := by
  -- Each call alone, on any context and reference.
  have alone {context : Context σ} {token name : Text} {value : VariableValue}
      (isName : IsName name) (spelled : Spells name (Text.trim token))
      (notCall : Text.trim token ≠ "$__conditionalAll".toList)
      (holds : context.Holds name value) :
      Builtin.conditionalAll.applyAll context (conditionalCall condition token) =
        pure (if value.Narrows context.allValue then Text.trim condition else Sql.always) := by
    have expanded := meaning_conditionalCall_of_holds droppable isName spelled notCall holds []
    have nothing : (Builtin.conditionalAll : Applier σ).meaning context [] = pure [] :=
      meaning_of_none rfl
    rw [nothing, map_pure, List.append_nil, List.append_nil] at expanded
    rw [applyAll_of_ignoresPlace (ignoresPlace_conditionalAll context)]
    exact expanded
  refine ⟨alone isName spelled notCall holds, ?_, ?_⟩
  · intro before behind clear
    rw [applyAll_conditionalAll_append clear (foreign_conditionalCall _ _ _),
      meaning_conditionalCall_of_holds droppable isName spelled notCall holds,
      applyAll_of_ignoresPlace (ignoresPlace_conditionalAll context), Functor.map_map,
      map_eq_pure_bind]
  · intro otherContext otherToken otherName otherValue otherIsName otherSpelled otherNotCall
      otherHolds sameSentinel sameValues
    rw [alone isName spelled notCall holds, alone otherIsName otherSpelled otherNotCall otherHolds,
      sameSentinel]
    simp only [VariableValue.narrows_congr sameValues]

/-- A context with a substitution, in which a name has two variables. -/
def repeatedSelection : Context Unit :=
  { (Context.empty : Context Unit) with
    templateVariables := [⟨"w", .single "$__all"⟩, ⟨"v", .multiple ["", "a", ""]⟩,
      ⟨"v", .single "$__all"⟩]
    substitution := some fun _ => [] }

/-- The same value selected once, of a variable of another name. -/
def singleSelection : Context Unit :=
  { (Context.empty : Context Unit) with
    templateVariables := [⟨"u", .multiple ["a", ""]⟩] }

/-- A reference with a format and blanks around it, and a bare one. -/
theorem applyAll_conditionalCall_of_holds_repeated :
    (repeatedSelection.Holds "v".toList (.multiple ["".toList, "a".toList, "".toList]) ∧
        singleSelection.Holds "u".toList (.multiple ["a".toList, "".toList])) ∧
      Builtin.conditionalAll.applyAll repeatedSelection
          (conditionalCall " c IN ('),') ".toList " [[v:csv]]\n".toList) =
        pure "c IN ('),')".toList ∧
      Builtin.conditionalAll.applyAll singleSelection
          (conditionalCall " c IN ('),') ".toList "$u".toList) =
        Builtin.conditionalAll.applyAll repeatedSelection
          (conditionalCall " c IN ('),') ".toList " [[v:csv]]\n".toList) := by
  have droppable : Droppable " c IN ('),') ".toList := by
    refine ⟨by decide +kernel, by decide, ?_⟩
    exact (locate?_eq_none_iff Callee.conditionalAll.name_ne_nil).1 (by decide +kernel)
  have isName : IsName "v".toList := ⟨by decide, List.all_eq_true.1 (by decide)⟩
  have otherIsName : IsName "u".toList := ⟨by decide, List.all_eq_true.1 (by decide)⟩
  have isFormat : IsName "csv".toList := ⟨by decide, List.all_eq_true.1 (by decide)⟩
  have trimmed : Text.trim " [[v:csv]]\n".toList = "[[v:csv]]".toList := by decide +kernel
  have spelled : Spells "v".toList (Text.trim " [[v:csv]]\n".toList) := by
    rw [trimmed]
    exact .bracketedFormat isFormat
  have holds : repeatedSelection.Holds "v".toList
      (.multiple ["".toList, "a".toList, "".toList]) :=
    ⟨[⟨"w", .single "$__all"⟩], [⟨"v", .single "$__all"⟩], rfl, by decide⟩
  have otherHolds : singleSelection.Holds "u".toList (.multiple ["a".toList, "".toList]) :=
    ⟨[], [], rfl, by decide⟩
  have selected := applyAll_conditionalCall_of_holds droppable isName spelled (by decide +kernel)
    holds
  refine ⟨⟨holds, otherHolds⟩, selected.1.trans ?_, ?_⟩
  · exact congrArg pure (by decide +kernel)
  · refine selected.2.2 _ _ _ _ otherIsName .bare (by decide +kernel) otherHolds rfl fun value => ?_
    simp [VariableValue.toList, or_comm]

end QueryMacros
