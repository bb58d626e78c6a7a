import QueryMacros.Proofs.Builtin.Callee
import QueryMacros.Proofs.Builtin.Condition

/-!
# Names of macros in the condition

A literal neither hides the name of a macro that its value has, nor makes up one: the
characters that are written twice are in no name, and the quote behind the value ends
every word. So the name of a macro occurs in the condition of the ad-hoc filters exactly
if it occurs in a value that counts, unless a column has a dollar in its name.
-/
namespace QueryMacros

open Macro Sql

variable {σ : Type}

/-! ## Names in literals -/

namespace Sql

/-- A character is quoted as itself, with what doubles it behind it. -/
theorem quoteCharacter_eq_cons (c : Char) : ∃ doubled, quoteCharacter c = c :: doubled := by
  unfold quoteCharacter
  split
  · next backslash => exact ⟨_, by rw [backslash]⟩
  · split
    · next quote => exact ⟨_, by rw [quote]⟩
    · exact ⟨[], rfl⟩

/-- The front of a written value is the front of the value, if that has no character that
is written twice; and behind it the same character follows, or the quote that closes the
literal. The induction is on the front. It ends inside the value, or right in front of the
closing quote, which stands for the end of the text. -/
theorem front_of_quoted {front : Text} (plain : ∀ c ∈ front, c ≠ '\'' ∧ c ≠ '\\')
    (edge : Option Char → Bool) (closes : edge (some '\'') = edge none) (text rest : Text) :
    (∃ behind, text.flatMap quoteCharacter ++ '\'' :: rest = front ++ behind ∧
        edge behind.head? = true) ↔
      ∃ behind, text = front ++ behind ∧ edge behind.head? = true := by
  induction front generalizing text with
  | nil =>
    cases text with
    | nil => simp [closes]
    | cons c text =>
      obtain ⟨doubled, written⟩ := quoteCharacter_eq_cons c
      simp [written]
  | cons d front inductionHypothesis =>
    obtain ⟨single, others⟩ := List.forall_mem_cons.1 plain
    cases text with
    | nil =>
      constructor
      · rintro ⟨behind, split, -⟩
        exact absurd (List.cons.inj split).1.symm single.1
      · rintro ⟨behind, split, -⟩
        cases split
    | cons c text =>
      by_cases same : c = d
      · subst same
        have written : quoteCharacter c = [c] := by
          rw [quoteCharacter, if_neg single.2, if_neg single.1]
        have shorter := inductionHypothesis others text
        simpa [written] using shorter
      · obtain ⟨doubled, written⟩ := quoteCharacter_eq_cons c
        simp [written, same]

end Sql

namespace Callee

/-- The name of a macro has none of the characters that are doubled. -/
theorem plain_name (callee : Callee) : ∀ c ∈ callee.name, c ≠ '\'' ∧ c ≠ '\\' := by
  have plain : callee.name.all (fun c => c != '\'' && c != '\\') = true := by
    cases callee <;> decide
  simpa using plain

/-- A name stands at the front of a quoted text just when it does so at the front of the
text. -/
theorem nameAt?_quoted (callee : Callee) (text rest : Text) :
    (nameAt? callee.name none (text.flatMap quoteCharacter ++ '\'' :: rest)).isSome =
      (nameAt? callee.name none text).isSome := by
  have closes : Text.wordEdge callee.name.getLast? (some '\'') =
      Text.wordEdge callee.name.getLast? none := rfl
  have fronts := front_of_quoted callee.plain_name (Text.wordEdge callee.name.getLast?) closes
    text rest
  rw [Bool.eq_iff_iff, Option.isSome_iff_exists, Option.isSome_iff_exists]
  simpa only [nameAt?_eq_some_iff] using fronts

/-- What stands in front of a name without a dollar neither holds it nor begins it. -/
theorem occurs_append_of_no_dollar (callee : Callee) {front : Text} (absent : '$' ∉ front)
    (rest : Text) : Occurs callee.name (front ++ rest) ↔ Occurs callee.name rest :=
  occurs_append_of_silent callee.name_ne_nil (callee.silent_of_no_dollar absent) rest

/-- In a text without a dollar no name occurs. -/
theorem not_occurs_of_no_dollar (callee : Callee) {text : Text} (absent : '$' ∉ text) :
    ¬ Occurs callee.name text :=
  not_occurs_of_silent callee.name_ne_nil (callee.silent_of_no_dollar absent)

/-- A name occurs in a literal exactly where it occurs in its value. The induction is on
the value: a name begins with a dollar, which is written once. -/
theorem occurs_quote_append (callee : Callee) (text rest : Text) :
    Occurs callee.name (quote text ++ rest) ↔
      Occurs callee.name text ∨ Occurs callee.name rest := by
  have opened : quote text ++ rest = ['\''] ++ (text.flatMap quoteCharacter ++ '\'' :: rest) := by
    simp [quote]
  rw [opened, callee.occurs_append_of_no_dollar (by decide)]
  clear opened
  induction text with
  | nil =>
    have closing : Occurs callee.name (['\''] ++ rest) ↔ Occurs callee.name rest :=
      callee.occurs_append_of_no_dollar (by decide) rest
    simpa [not_occurs_nil callee.name_ne_nil] using closing
  | cons c text inductionHypothesis =>
    have sameFront := callee.nameAt?_quoted (c :: text) rest
    rw [occurs_cons callee.name_ne_nil c text, ← sameFront, or_assoc, List.flatMap_cons,
      List.append_assoc]
    refine Iff.trans ?_ (or_congr_right inductionHypothesis)
    -- A character that is doubled begins no name, and neither does what doubles it.
    by_cases plain : c ≠ '\'' ∧ c ≠ '\\'
    · have written : quoteCharacter c = [c] := by
        rw [quoteCharacter, if_neg plain.2, if_neg plain.1]
      rw [written, List.singleton_append, occurs_cons callee.name_ne_nil]
    · have absent : '$' ∉ quoteCharacter c := by
        have special : c = '\'' ∨ c = '\\' := by grind
        rcases special with rfl | rfl
        · decide
        · decide
      obtain ⟨doubled, written⟩ := quoteCharacter_eq_cons c
      have notHere : nameAt? callee.name none
          (quoteCharacter c ++ (text.flatMap quoteCharacter ++ '\'' :: rest)) = none := by
        obtain ⟨letters, same, -⟩ := callee.name_eq_cons
        rw [written] at absent ⊢
        have notDollar : c ≠ '$' := fun dollar => absent (by rw [dollar]; exact List.mem_cons_self)
        rw [same]
        exact nameAt?_first_ne notDollar _
      rw [callee.occurs_append_of_no_dollar absent, notHere]
      simp

end Callee

/-! ## Names in the condition -/

namespace Builtin

/-- The name of a macro occurs in a value that counts, as it is after substitution. -/
def NamedInValue (callee : Callee) (context : Context σ) (counted : List (Text × AdHocFilter)) :
    Prop :=
  ∃ pair ∈ counted, ∃ value, pair.2.value = some value ∧
    Occurs callee.name (context.substitute value)

/-- A name occurs in a value that counts if it does in the first one, or in one of the
others. -/
theorem namedInValue_cons {callee : Callee} {context : Context σ} {pair : Text × AdHocFilter}
    {counted : List (Text × AdHocFilter)} :
    NamedInValue callee context (pair :: counted) ↔
      (∃ value, pair.2.value = some value ∧ Occurs callee.name (context.substitute value)) ∨
        NamedInValue callee context counted := by
  simp [NamedInValue]

/-- In the condition on a filter a name occurs only inside the literal. -/
theorem occurs_filterCondition (callee : Callee) {context : Context σ} {column part : Text}
    {filter : AdHocFilter} (rendered : filterCondition context column filter = .ok part)
    (absent : '$' ∉ column) (rest : Text) :
    Occurs callee.name (part ++ rest) ↔
      (∃ value, filter.value = some value ∧ Occurs callee.name (context.substitute value)) ∨
        Occurs callee.name rest := by
  unfold filterCondition at rendered
  cases valued : filter.value with
  | some value =>
    rw [valued] at rendered
    obtain rfl := Except.ok.inj rendered
    have leading : '$' ∉ comparison column [] filter.operator := fun member =>
      absent (mem_column_of_mem_comparison (by decide) member)
    rw [comparison_eq_append, List.append_assoc, callee.occurs_append_of_no_dollar leading,
      callee.occurs_quote_append]
    simp
  | none =>
    rw [valued] at rendered
    have noDollar : '$' ∉ part := fun member =>
      absent (mem_column_of_mem_nullComparison rendered (by decide) member)
    rw [callee.occurs_append_of_no_dollar noDollar]
    simp

/-- In joined conditions a name occurs only inside the literals. -/
theorem occurs_intercalate (callee : Callee) {context : Context σ} {pair : Text × AdHocFilter}
    {counted : List (Text × AdHocFilter)} {parts : List Text}
    (rendered : conditions context (pair :: counted) = .ok parts)
    (absent : ∀ each ∈ pair :: counted, '$' ∉ each.1) {rest : Text} (noDollar : '$' ∉ rest) :
    Occurs callee.name ((" AND " : String).toList.intercalate parts ++ rest) ↔
      NamedInValue callee context (pair :: counted) := by
  induction counted generalizing pair parts with
  | nil =>
    obtain ⟨column, filter⟩ := pair
    obtain ⟨part, others, renderedPart, renderedOthers, rfl⟩ := conditions_cons.1 rendered
    obtain rfl : others = [] := (Except.ok.inj renderedOthers).symm
    have here : '$' ∉ column := absent _ List.mem_cons_self
    rw [List.intercalate_singleton, occurs_filterCondition callee renderedPart here,
      namedInValue_cons]
    have last := callee.not_occurs_of_no_dollar noDollar
    simp [last, NamedInValue]
  | cons next counted inductionHypothesis =>
    obtain ⟨column, filter⟩ := pair
    obtain ⟨part, others, renderedPart, renderedOthers, rfl⟩ := conditions_cons.1 rendered
    have here : '$' ∉ column := absent _ List.mem_cons_self
    have behind := inductionHypothesis renderedOthers fun each member =>
      absent each (List.mem_cons_of_mem _ member)
    have separator : '$' ∉ (" AND " : String).toList := by decide
    obtain ⟨second, later, -, -, rfl⟩ := conditions_cons.1 renderedOthers
    rw [List.intercalate_cons_cons, List.append_assoc, List.append_assoc,
      occurs_filterCondition callee renderedPart here,
      callee.occurs_append_of_no_dollar separator, behind]
    simp [NamedInValue]

/-- In the whole condition a name occurs only inside the literals. -/
theorem occurs_conjunction (callee : Callee) {context : Context σ}
    {counted : List (Text × AdHocFilter)} {parts : List Text}
    (rendered : conditions context counted = .ok parts)
    (absent : ∀ each ∈ counted, '$' ∉ each.1) {rest : Text} (noDollar : '$' ∉ rest) :
    Occurs callee.name (conjunction parts ++ rest) ↔ NamedInValue callee context counted := by
  cases counted with
  | nil =>
    obtain rfl : parts = [] := (Except.ok.inj rendered).symm
    have always : '$' ∉ Sql.always := by decide
    have silent := callee.not_occurs_of_no_dollar noDollar
    rw [show conjunction [] = Sql.always from rfl, callee.occurs_append_of_no_dollar always]
    simp [silent, NamedInValue]
  | cons pair counted =>
    have joined := occurs_intercalate callee rendered absent noDollar
    obtain ⟨part, others, -, -, rfl⟩ := conditions_cons.1 rendered
    exact joined

end Builtin

end QueryMacros
