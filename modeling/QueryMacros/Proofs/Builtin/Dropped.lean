import QueryMacros.Proofs.Builtin.NamedValue
import QueryMacros.Proofs.Builtin.Passes
import QueryMacros.Proofs.Context.Spelling
import QueryMacros.Proofs.Macro.ArgumentList
import QueryMacros.Proofs.Macro.Seam
import QueryMacros.Proofs.Template.Scanning

/-!
# Dropped conditions

A conditional whose reference does not narrow the query comes out as what always holds.
The conditional is the first of the passes, so no later macro ever sees the condition,
and neither does the ad-hoc filter when it looks for the table. What is left to show is
that the first pass itself forgets the condition: the argument list is taken apart at the
comma in front of the reference, the condition has nothing to expand for this pass, and
the search goes on behind the call.
-/
namespace QueryMacros

open Macro Applier

variable {σ : Type}

/-! ## References as arguments -/

/-- The characters of a reference, those of its names apart. -/
def referenceMarks : Text := "$\x7b\x7d[]:"

/-- A reference is made of word characters and marks. There is a case for each
spelling. -/
theorem isWord_or_mark_of_spells {name text : Text} (word : IsName name)
    (spelled : Spells name text) : ∀ c ∈ text, Text.isWord c = true ∨ c ∈ referenceMarks := by
  have letters {word : Text} (isName : IsName word) :
      ∀ c ∈ word, Text.isWord c = true ∨ c ∈ referenceMarks :=
    fun c member => Or.inl (isName.2 c member)
  have marked : ∀ c ∈ referenceMarks, Text.isWord c = true ∨ c ∈ referenceMarks :=
    fun c member => Or.inr member
  cases spelled with
  | bare =>
    exact List.forall_mem_cons.2 ⟨marked _ (by decide), letters word⟩
  | braced =>
    simp only [List.forall_mem_append, List.forall_mem_cons]
    exact ⟨⟨marked _ (by decide), marked _ (by decide), letters word⟩,
      marked _ (by decide), List.forall_mem_nil _⟩
  | bracketed =>
    simp only [List.forall_mem_append, List.forall_mem_cons]
    exact ⟨⟨marked _ (by decide), marked _ (by decide), letters word⟩,
      marked _ (by decide), marked _ (by decide), List.forall_mem_nil _⟩
  | bracedFormat isFormat =>
    simp only [List.forall_mem_append, List.forall_mem_cons]
    exact ⟨⟨⟨marked _ (by decide), marked _ (by decide), letters word⟩,
      marked _ (by decide), letters isFormat⟩, marked _ (by decide), List.forall_mem_nil _⟩
  | bracketedFormat isFormat =>
    simp only [List.forall_mem_append, List.forall_mem_cons]
    exact ⟨⟨⟨marked _ (by decide), marked _ (by decide), letters word⟩,
      marked _ (by decide), letters isFormat⟩, marked _ (by decide), marked _ (by decide),
      List.forall_mem_nil _⟩

/-- A word character is none of the characters outside words. -/
theorem ne_of_isWord {c : Char} (word : Text.isWord c = true) (other : Char)
    (outside : Text.isWord other = false) : c ≠ other := by
  rintro rfl
  rw [word] at outside
  cases outside

/-- A word character changes nothing in a scan. -/
theorem advance_of_isWord {c : Char} (word : Text.isWord c = true) :
    advance outermost c = some outermost := by
  have quote : isQuote c = false := by
    simp [isQuote, ne_of_isWord word '\'' (by decide), ne_of_isWord word '"' (by decide),
      ne_of_isWord word '\x60' (by decide)]
  simp [outermost, advance, quote, ne_of_isWord word '(' (by decide),
    ne_of_isWord word ')' (by decide), ne_of_isWord word ',' (by decide)]

/-- A text of characters that a scan passes over is well formed. -/
theorem wellFormed_of_advance {text : Text}
    (passed : ∀ c ∈ text, advance outermost c = some outermost) : WellFormed text := by
  induction text with
  | nil => rfl
  | cons c text inductionHypothesis =>
    obtain ⟨here, there⟩ := List.forall_mem_cons.1 passed
    rw [WellFormed, walk, here, Option.bind_some]
    exact inductionHypothesis there

/-- A reference can be an argument, with blanks around it or without. -/
theorem wellFormed_reference {token name : Text} (refers : variableName? token = some name) :
    WellFormed token := by
  obtain ⟨word, spelled⟩ := Reference.spells_of_name? refers
  obtain ⟨front, back, split, blankFront, blankBack⟩ := strip_split Text.isBlank token
  have blanks {blank : Text} (all : blank.all Text.isBlank = true) : WellFormed blank :=
    wellFormed_of_advance fun c member =>
      Template.advance_of_isBlank (List.all_eq_true.1 all c member) 0
  have inner : WellFormed (Text.trim token) := by
    apply wellFormed_of_advance
    intro c member
    rcases isWord_or_mark_of_spells word spelled c member with inWord | mark
    · exact advance_of_isWord inWord
    · have marks : referenceMarks.all (fun c => advance outermost c = some outermost) = true := by
        decide
      exact of_decide_eq_true (List.all_eq_true.1 marks c mark)
  rw [split]
  exact ((blanks blankFront).append inner).append (blanks blankBack)

/-- A text of one class has no character outside the class. -/
theorem not_mem_of_all {test : Char → Bool} {text : Text} {c : Char}
    (all : text.all test = true) (outside : test c = false) : c ∉ text := by
  intro member
  have inside := List.all_eq_true.1 all c member
  rw [outside] at inside
  cases inside

/-- The name of a variable has no dollar in it. -/
theorem not_dollar_mem_of_isName {name : Text} (word : IsName name) : '$' ∉ name :=
  not_mem_of_all (List.all_eq_true.2 word.2) (by decide)

namespace Callee

/-- The name of a macro is a word behind a dollar, with no blank in it. -/
theorem name_eq_word (callee : Callee) :
    ∃ letters, callee.name = '$' :: letters ∧ letters.any Text.isBlank = false := by
  cases callee <;> exact ⟨_, rfl, by decide⟩

/-- Where the name of a macro stands at the front of a word behind a dollar, it is all of
it. -/
theorem eq_name_of_nameAt? {callee : Callee} {word back behind : Text} (isName : IsName word)
    (blank : back.all Text.isBlank = true)
    (found : nameAt? callee.name none ('$' :: (word ++ back)) = some behind) :
    '$' :: word = callee.name := by
  obtain ⟨split, edge⟩ := nameAt?_eq_some_iff.1 found
  obtain ⟨letters, named, filled⟩ := callee.name_eq_word
  rw [named] at split ⊢
  obtain ⟨-, split⟩ := List.cons.inj split
  rcases List.append_eq_append_iff.1 split with ⟨part, whole, rest⟩ | ⟨part, whole, rest⟩
  · cases part with
    | nil => rw [whole, List.append_nil]
    | cons c part =>
      have inLetters : Text.isBlank c = false := by
        simpa using List.any_eq_false.1 filled c (by rw [whole]; simp)
      rw [rest, List.cons_append, List.all_cons, inLetters, Bool.false_and] at blank
      cases blank
  · cases part with
    | nil => rw [whole, List.append_nil]
    | cons c part =>
      -- The word goes on behind the name, so the name does not end there.
      have inWord := isName.2 c (by rw [whole]; simp)
      simp [rest, Text.wordEdge, callee.name_ends_in_word, inWord] at edge

/-- Of all references only the one that is spelled like a macro holds the name of it. -/
theorem trim_of_occurs {callee : Callee} {token name : Text}
    (refers : variableName? token = some name) (occurs : Occurs callee.name token) :
    Text.trim token = callee.name := by
  obtain ⟨word, spelled⟩ := Reference.spells_of_name? refers
  obtain ⟨front, back, split, blankFront, blankBack⟩ := strip_split Text.isBlank token
  rw [← Text.trim_eq_strip] at split
  have noDollarFront := not_mem_of_all blankFront (show Text.isBlank '$' = false by decide)
  have noDollarBack := not_mem_of_all blankBack (show Text.isBlank '$' = false by decide)
  have noDollar := not_dollar_mem_of_isName word
  rw [split, List.append_assoc, callee.occurs_append_of_no_dollar noDollarFront] at occurs
  generalize Text.trim token = text at spelled occurs ⊢
  obtain ⟨letters, named, -⟩ := callee.name_eq_cons
  -- Behind a dollar and a brace no name goes on, and further dollars there are none.
  have elsewhere {rest : Text} (absent : '$' ∉ rest) :
      ¬ Occurs callee.name ('$' :: '\x7b' :: rest) := by
    rw [occurs_cons callee.name_ne_nil, named, nameAt?_second_ne (by decide), ← named]
    have silent := callee.not_occurs_of_no_dollar (show '$' ∉ '\x7b' :: rest by simp [absent])
    simp [silent]
  cases spelled with
  | bare =>
    rw [List.cons_append, occurs_cons callee.name_ne_nil] at occurs
    rcases occurs with here | later
    · obtain ⟨behind, found⟩ := Option.isSome_iff_exists.1 here
      exact eq_name_of_nameAt? word blankBack found
    · exact absurd later (callee.not_occurs_of_no_dollar (by simp [noDollar, noDollarBack]))
  | braced => exact absurd occurs (elsewhere (by simp [noDollar, noDollarBack]))
  | bracedFormat format =>
    have noDollarFormat := not_dollar_mem_of_isName format
    exact absurd occurs (elsewhere (by simp [noDollar, noDollarFormat, noDollarBack]))
  | bracketed =>
    exact absurd occurs (callee.not_occurs_of_no_dollar (by simp [noDollar, noDollarBack]))
  | bracketedFormat format =>
    have noDollarFormat := not_dollar_mem_of_isName format
    refine absurd occurs (callee.not_occurs_of_no_dollar ?_)
    simp [noDollar, noDollarFormat, noDollarBack]

/-- The whole call of a macro is found where it stands, whatever its arguments are. -/
theorem occurrence?_listing (callee : Callee) {arguments : List Text}
    (listable : Listable arguments) (occupied : ¬ Vacant arguments) (rest : Text) :
    ∃ source, occurrence? callee.name none (callee.name ++ (listing arguments ++ rest)) =
      some ⟨[], arguments, source, rest⟩ := by
  have here : nameAt? callee.name none (callee.name ++ (listing arguments ++ rest)) =
      some (listing arguments ++ rest) := by
    refine nameAt?_eq_some_iff.2 ⟨rfl, ?_⟩
    have separates : Text.isWord '(' = false := by decide
    simp [listing, Text.wordEdge, callee.name_ends_in_word, separates]
  have read : argumentsOf (listing arguments ++ rest) = (arguments, rest) := by
    rw [argumentsOf, (argumentList?_listing listable rest).1 occupied, Option.getD_some]
  rw [occurrence?, locate?_of_nameAt? here, Option.map_some]
  simp only [read]
  exact ⟨_, rfl⟩

/-- A reference that holds the name of a macro is a call of it without arguments. -/
theorem occurrence?_reference {callee : Callee} {token name : Text}
    (refers : variableName? token = some name) (occurs : Occurs callee.name token) :
    ∃ occurrence, occurrence? callee.name none token = some occurrence ∧
      occurrence.arguments = [] := by
  have named := trim_of_occurs refers occurs
  obtain ⟨front, back, split, blankFront, blankBack⟩ := strip_split Text.isBlank token
  rw [← Text.trim_eq_strip, named, List.append_assoc] at split
  have noDollarFront := not_mem_of_all blankFront (show Text.isBlank '$' = false by decide)
  have noDollarBack := not_mem_of_all blankBack (show Text.isBlank '$' = false by decide)
  have silent := callee.silent_of_no_dollar noDollarFront
  -- There is one dollar only, so the name is found where it stands.
  have located : locate? callee.name none (callee.name ++ back) = some ([], back) := by
    rw [split, callee.occurs_append_of_no_dollar noDollarFront] at occurs
    obtain ⟨letters, spelled, noDollar⟩ := callee.name_eq_cons
    have behindFirst : '$' ∉ '_' :: letters ++ back := by simp [noDollar, noDollarBack]
    rw [spelled, List.cons_append, ← spelled, occurs_cons callee.name_ne_nil] at occurs
    have here := occurs.resolve_right (callee.not_occurs_of_no_dollar behindFirst)
    obtain ⟨behind, found⟩ := Option.isSome_iff_exists.1 here
    rw [← List.cons_append, ← spelled] at found
    have same := (nameAt?_eq_some_iff.1 found).1
    rw [List.append_cancel_left same]
    exact locate?_of_nameAt? (List.append_cancel_left same ▸ found)
  have noList : argumentsOf back = ([], back) := by
    cases back with
    | nil => rfl
    | cons c back =>
      rw [List.all_cons, Bool.and_eq_true] at blankBack
      obtain ⟨-, notOpening, -, -⟩ := Template.marks_of_isBlank blankBack.1
      simp [argumentsOf, argumentList?, notOpening]
  rw [split, occurrence?, locate?_silent_append callee.name_ne_nil silent, located]
  simp only [Option.map_some, noList]
  exact ⟨_, rfl, rfl⟩

end Callee

/-! ## Conditions -/

/-- A reference does not narrow a query: what is selected of its variable is empty, or
stands for all values; or the context does not know the variable, and substitution leaves
the reference as it is, makes nothing of it, or what stands for all values. -/
inductive Context.Neutral (context : Context σ) (reference name : Text) : Prop
  | empty {known : TemplateVariable} (found : context.findVariable? name = some known)
      (vacant : ∀ value ∈ known.value.toList, value = [])
  | all {known : TemplateVariable} (found : context.findVariable? name = some known)
      (selected : context.allValue ∈ known.value.toList)
  | unchanged (unknown : context.findVariable? name = none)
      (kept : context.substitute reference = reference)
  | erased (unknown : context.findVariable? name = none)
      (gone : context.substitute reference = [])
  | everything (unknown : context.findVariable? name = none)
      (every : context.substitute reference = context.allValue)

/-- A reference is selective unless it is neutral. The cases are whether the context knows
the variable, and then what is selected of it or what substitution makes of the
reference. -/
theorem Context.isSelective_eq_false_iff {context : Context σ} {reference name : Text} :
    context.isSelective reference name = false ↔ context.Neutral reference name := by
  unfold Context.isSelective
  cases found : context.findVariable? name with
  | some known =>
    -- A known variable counts by what is selected of it, and its reference is not substituted.
    have vacant : known.value.isEmpty = true ↔ ∀ value ∈ known.value.toList, value = [] := by
      simp [VariableValue.isEmpty]
    have every : known.value.isAll context.allValue = true ↔
        context.allValue ∈ known.value.toList := by
      simp [VariableValue.isAll]
    constructor
    · intro unselective
      by_cases none : known.value.isEmpty = true
      · exact .empty found (vacant.1 none)
      · exact .all found (every.1 (by simpa [none] using unselective))
    · intro neutral
      cases neutral with
      | empty same none =>
        obtain rfl := Option.some.inj (found.symm.trans same)
        simp [vacant.2 none]
      | all same selected =>
        obtain rfl := Option.some.inj (found.symm.trans same)
        simp [every.2 selected]
      | unchanged unknown | erased unknown | everything unknown =>
        rw [found] at unknown
        cases unknown
  | none =>
    constructor
    · intro unselective
      by_cases kept : context.substitute reference = reference
      · exact .unchanged found kept
      by_cases gone : context.substitute reference = []
      · exact .erased found gone
      · exact .everything found (by simpa [kept, gone] using unselective)
    · intro neutral
      cases neutral with
      | empty same | all same =>
        rw [found] at same
        cases same
      | unchanged _ kept => simp [kept]
      | erased _ gone => simp [gone]
      | everything _ every => simp [every]

/-- A condition that can be an argument and holds no call of the conditional itself. -/
structure Droppable (condition : Text) : Prop where
  wellFormed : WellFormed condition
  filled : condition.all Text.isBlank = false
  plain : ¬ Occurs Callee.conditionalAll.name condition

/-- A conditional as it is written. -/
def conditionalCall (condition reference : Text) : Text :=
  "$__conditionalAll(" ++ condition ++ ',' :: reference ++ [')']

/-- A conditional is written as the name of its macro and a list of two arguments. -/
theorem conditionalCall_eq (condition reference : Text) :
    conditionalCall condition reference =
      Callee.conditionalAll.name ++ listing [condition, reference] := by
  have opening : ("$__conditionalAll(" : Text) = Callee.conditionalAll.name ++ ['('] := by decide
  change ("$__conditionalAll(" : Text) ++ condition ++ ',' :: reference ++ [')'] = _
  rw [opening]
  simp [listing]

/-! ## The pass of the conditional -/

/-- The conditional looks at its arguments only, and not at where it stands. -/
theorem ignoresPlace_conditionalAll (context : Context σ) :
    (Builtin.conditionalAll : Applier σ).IgnoresPlace context :=
  @Callee.ignoresPlace σ .conditionalAll context nofun

section Pass

variable {context : Context σ} {condition token name : Text}

/-- A conditional comes to its condition if its reference is selective, and to what always
holds if it is not. -/
theorem expand_conditionalAll (filled : condition.all Text.isBlank = false)
    (refers : variableName? token = some name) {invocation : Invocation}
    (called : invocation.arguments = [condition, token]) (sql : Text) :
    Builtin.conditionalAll.expand sql invocation context =
      pure (if context.isSelective (Text.trim token) name then Text.trim condition
        else Sql.always) := by
  have again : variableName? (Text.trim token) = some name := by
    rw [variableName?, show Text.trim (Text.trim token) = Text.trim token from strip_strip _ _]
    exact refers
  have accepted : Callee.conditionalAll.Accepts invocation.arguments := by
    rw [called]
    refine ⟨rfl, List.forall_mem_cons.2 ⟨(solid_strip filled).ne_nil, ?_⟩⟩
    rw [List.forall_mem_singleton]
    intro vacant
    rw [vacant] at again
    cases again
  have checked : ofExcept (invocation.requireArguments 2) =
      (pure [Text.trim condition, Text.trim token] : Expansion σ (List Text)) := by
    have required := Callee.requireArguments_of_accepts accepted
    rw [called] at required
    exact congrArg ofExcept required
  refine (congrArg (· >>= _) checked).trans ?_
  rw [pure_bind]
  simp only [again]

/-- The pass takes a call for its arguments: the condition, which has nothing to expand,
and the reference. -/
theorem meaning_conditionalCall (droppable : Droppable condition)
    (refers : variableName? token = some name) (behind : Text) :
    (Builtin.conditionalAll : Applier σ).meaning context
        (conditionalCall condition token ++ behind) = (do
      let reference ← Builtin.conditionalAll.meaning context token
      let replacement ← Builtin.conditionalAll.expand []
        ⟨Callee.conditionalAll.name, 0, 0, [condition, reference]⟩ context
      let rest ← Builtin.conditionalAll.meaning context behind
      return replacement ++ rest) := by
  have listable : Listable [condition, token] := by
    refine ⟨List.cons_ne_nil _ _, List.forall_mem_cons.2 ⟨droppable.wellFormed, ?_⟩⟩
    exact List.forall_mem_singleton.2 (wellFormed_reference refers)
  have occupied : ¬ Vacant [condition, token] := by
    rintro ⟨blank, -, same⟩
    simp at same
  obtain ⟨source, found⟩ := Callee.conditionalAll.occurrence?_listing listable occupied behind
  have kept : (Builtin.conditionalAll : Applier σ).meaning context condition = pure condition :=
    meaning_of_none ((occurrence?_eq_none_iff Builtin.conditionalAll.named).2 droppable.plain)
  have sameExpansion (sql : Text) (invocation : Invocation) (reference : Text)
      (called : invocation.name = Callee.conditionalAll.name) :
      Builtin.conditionalAll.expand sql { invocation with arguments := [condition, reference] }
          context =
        Builtin.conditionalAll.expand []
          ⟨Callee.conditionalAll.name, 0, 0, [condition, reference]⟩ context :=
    ignoresPlace_conditionalAll context _ _ _ _ called rfl
  rw [conditionalCall_eq, List.append_assoc, meaning_of_some found]
  simp only [List.mapM_cons, List.mapM_nil, kept, pure_bind, bind_assoc, List.nil_append]
  refine bind_congr fun reference => ?_
  rw [sameExpansion _ _ _ rfl]

/-- A call whose reference is no call itself is replaced by what it comes to. -/
theorem meaning_conditionalCall_of_absent (droppable : Droppable condition)
    (refers : variableName? token = some name)
    (absent : ¬ Occurs Callee.conditionalAll.name token) (behind : Text) :
    (Builtin.conditionalAll : Applier σ).meaning context
        (conditionalCall condition token ++ behind) =
      ((if context.isSelective (Text.trim token) name then Text.trim condition
        else Sql.always) ++ ·) <$> Builtin.conditionalAll.meaning context behind := by
  have kept : (Builtin.conditionalAll : Applier σ).meaning context token = pure token :=
    meaning_of_none ((occurrence?_eq_none_iff Builtin.conditionalAll.named).2 absent)
  rw [meaning_conditionalCall droppable refers, kept, pure_bind,
    expand_conditionalAll droppable.filled refers rfl, pure_bind, map_eq_pure_bind]

/-- A neutral reference that is no call itself lets the condition go. -/
theorem meaning_conditionalCall_of_neutral (droppable : Droppable condition)
    (refers : variableName? token = some name) (neutral : context.Neutral (Text.trim token) name)
    (absent : ¬ Occurs Callee.conditionalAll.name token) (behind : Text) :
    (Builtin.conditionalAll : Applier σ).meaning context
        (conditionalCall condition token ++ behind) =
      (Sql.always ++ ·) <$> Builtin.conditionalAll.meaning context behind := by
  rw [meaning_conditionalCall_of_absent droppable refers absent,
    Context.isSelective_eq_false_iff.2 neutral]
  rfl

/-- A reference that is a call of the conditional itself is an error. -/
theorem meaning_reference_of_occurs (refers : variableName? token = some name)
    (occurs : Occurs Callee.conditionalAll.name token) :
    (Builtin.conditionalAll : Applier σ).meaning context token =
      throw (.arity Callee.conditionalAll.name 2) := by
  obtain ⟨occurrence, found, none⟩ := Callee.occurrence?_reference refers occurs
  have refused : ¬ Callee.conditionalAll.Accepts [] := by decide
  rw [meaning_of_some found, none, List.mapM_nil, pure_bind]
  refine (congrArg (· >>= _) (@Callee.expand_of_not_accepts σ .conditionalAll _ refused token
    context)).trans ?_
  rfl

end Pass

/-! ## Whole queries -/

/-- The text begins with a character that the name of the conditional does not go on
with. -/
def Foreign (text : Text) : Prop :=
  ∃ c rest, text = c :: rest ∧ c ∉ "__conditionalAll".toList

/-- A written conditional begins with a dollar, which the name has only at its front. -/
theorem foreign_conditionalCall (condition reference behind : Text) :
    Foreign (conditionalCall condition reference ++ behind) :=
  ⟨'$', _, rfl, by decide⟩

/-- What a dropped condition becomes begins with a digit, and the name has none. -/
theorem foreign_always (behind : Text) : Foreign (Sql.always ++ behind) :=
  ⟨'1', _, rfl, by decide⟩

/-- A text without the conditional is kept by its pass, in front of anything that the name
does not go on with. -/
theorem applyAll_conditionalAll_append {context : Context σ} {before rest : Text}
    (clear : ¬ Occurs Callee.conditionalAll.name before) (foreign : Foreign rest) :
    Builtin.conditionalAll.applyAll context (before ++ rest) =
      (before ++ ·) <$> (Builtin.conditionalAll : Applier σ).meaning context rest := by
  obtain ⟨c, rest, rfl, other⟩ := foreign
  have apart : ¬ Across Callee.conditionalAll.name before (c :: rest) :=
    not_across_of_foreign Callee.conditionalAll.name_ends_in_word clear other rest
  rw [applyAll_of_ignoresPlace (ignoresPlace_conditionalAll context)]
  exact meaning_append (ignoresPlace_conditionalAll context) (not_inside_of_not_occurs clear) apart

/-- Behind a text without the conditional only what the conditional makes of the rest
counts. -/
theorem expandMacros_congr {context : Context σ} {before left right : Text}
    (clear : ¬ Occurs Callee.conditionalAll.name before) (foreign : Foreign left)
    (otherForeign : Foreign right)
    (same : (Builtin.conditionalAll : Applier σ).meaning context left =
      Builtin.conditionalAll.meaning context right) :
    expandMacros context (before ++ left) = expandMacros context (before ++ right) := by
  have order : Callee.all = .conditionalAll :: Callee.all.tail := rfl
  have kept {rest : Text} (foreign : Foreign rest) :
      Callee.conditionalAll.applier.applyAll context (before ++ rest) =
        (before ++ ·) <$> (Builtin.conditionalAll : Applier σ).meaning context rest :=
    applyAll_conditionalAll_append clear foreign
  rw [Callee.expandMacros_eq_passes, Callee.expandMacros_eq_passes, order, Callee.passes_cons,
    Callee.passes_cons, kept foreign, kept otherForeign, same]

/-- A condition that is dropped has no effect: whatever it is, the query comes to the same
text, the same error and the same state. Unless the reference is spelled like the
conditional itself, which is an error, the query is the one with the condition that
always holds. -/
theorem expandMacros_dropped {context : Context σ} {before token name first second : Text}
    (clear : ¬ Occurs "$__conditionalAll".toList before)
    (refers : variableName? token = some name) (neutral : context.Neutral (Text.trim token) name)
    (droppable : Droppable first) (otherDroppable : Droppable second) (behind : Text) :
    expandMacros context (before ++ conditionalCall first token ++ behind) =
        expandMacros context (before ++ conditionalCall second token ++ behind) ∧
      (Text.trim token ≠ "$__conditionalAll".toList →
        expandMacros context (before ++ conditionalCall first token ++ behind) =
          expandMacros context (before ++ Sql.always ++ behind)) := by
  simp only [List.append_assoc]
  constructor
  · apply expandMacros_congr clear (foreign_conditionalCall _ _ _) (foreign_conditionalCall _ _ _)
    by_cases occurs : Occurs Callee.conditionalAll.name token
    · rw [meaning_conditionalCall droppable refers, meaning_conditionalCall otherDroppable refers,
        meaning_reference_of_occurs refers occurs]
      rfl
    · rw [meaning_conditionalCall_of_neutral droppable refers neutral occurs,
        meaning_conditionalCall_of_neutral otherDroppable refers neutral occurs]
  · intro other
    have absent : ¬ Occurs Callee.conditionalAll.name token := fun occurs =>
      other (Callee.trim_of_occurs refers occurs)
    apply expandMacros_congr clear (foreign_conditionalCall _ _ _) (foreign_always _)
    rw [meaning_conditionalCall_of_neutral droppable refers neutral absent]
    have silent := Callee.conditionalAll.silent_of_no_dollar (show '$' ∉ Sql.always by decide)
    exact (meaning_append_of_silent (ignoresPlace_conditionalAll context) silent behind).symm

/-- A context in which all values of a variable are selected. -/
def unselected : Context Unit :=
  { (Context.empty : Context Unit) with
    templateVariables := [⟨"v", .multiple ["a", "$__all"]⟩] }

/-- A condition with a macro that cannot be expanded, and one with quoted marks. -/
theorem expandMacros_dropped_unselected :
    (Droppable "$__dt(a)".toList ∧ Droppable "b IN ('),', $__fromTime)".toList ∧
        unselected.Neutral "$v".toList "v".toList) ∧
      expandMacros unselected ("SELECT 1 WHERE ".toList ++
          conditionalCall "$__dt(a)".toList " $v".toList ++ " AND $__adHocFilter()".toList) =
        expandMacros unselected ("SELECT 1 WHERE ".toList ++
          conditionalCall "b IN ('),', $__fromTime)".toList " $v".toList ++
            " AND $__adHocFilter()".toList) ∧
      expandMacros unselected ("SELECT 1 WHERE ".toList ++
          conditionalCall "$__dt(a)".toList " $v".toList ++ " AND $__adHocFilter()".toList) =
        expandMacros unselected ("SELECT 1 WHERE ".toList ++ Sql.always ++
          " AND $__adHocFilter()".toList) := by
  have absent (text : Text) (none : locate? Callee.conditionalAll.name none text = none) :
      ¬ Occurs Callee.conditionalAll.name text :=
    (locate?_eq_none_iff Callee.conditionalAll.name_ne_nil).1 none
  have droppable : Droppable "$__dt(a)".toList :=
    ⟨by decide +kernel, by decide, absent _ (by decide +kernel)⟩
  have otherDroppable : Droppable "b IN ('),', $__fromTime)".toList :=
    ⟨by decide +kernel, by decide, absent _ (by decide +kernel)⟩
  have neutral : unselected.Neutral "$v".toList "v".toList :=
    .all rfl (by decide)
  have refers : variableName? " $v".toList = some "v".toList := by decide +kernel
  have clear := absent "SELECT 1 WHERE ".toList (by decide +kernel)
  have dropped := expandMacros_dropped clear refers neutral droppable otherDroppable
    " AND $__adHocFilter()".toList
  exact ⟨⟨droppable, otherDroppable, neutral⟩, dropped.1, dropped.2 (by decide +kernel)⟩

end QueryMacros
