import QueryMacros.Proofs.Builtin.Form
import QueryMacros.Proofs.Macro.Expansion
import QueryMacros.Proofs.Macro.Grammar
import QueryMacros.Proofs.Text.Trim

/-!
# Expansions leave a trace

The macros that come after the ad-hoc filter write a number or a date wherever they
expand, and keep every argument. So the digits of a text count its expansions: a pass
of such a macro never loses a digit, and it gains one if it finds its name at all. A
text that passes unchanged therefore holds none of their names.
-/
namespace QueryMacros

open Macro Applier

variable {σ : Type}

namespace Text

/-- The number of digits in several texts. -/
def digitSum (texts : List Text) : Nat := digitCount texts.flatten

/-- No texts have no digits. -/
@[simp] theorem digitSum_nil : digitSum [] = 0 := rfl

/-- The digits of several texts are those of the first, and those of the others. -/
theorem digitSum_cons (text : Text) (texts : List Text) :
    digitSum (text :: texts) = digitCount text + digitSum texts := by
  rw [digitSum, List.flatten_cons, digitCount_append]
  rfl

/-- Commas between texts are no digits. -/
theorem digitCount_intercalate (texts : List Text) :
    digitCount ([','].intercalate texts) = digitSum texts := by
  have comma : digitCount [','] = 0 := by decide
  induction texts with
  | nil => rfl
  | cons text texts inductionHypothesis =>
    cases texts with
    | nil => simp [digitSum]
    | cons next texts =>
      rw [List.intercalate_cons_cons, digitCount_append, digitCount_append, comma,
        inductionHypothesis, digitSum_cons text]
      omega

/-- A text whose characters are no digits has none. -/
theorem digitCount_eq_zero {text : Text} (none : ∀ c ∈ text, c.isDigit = false) :
    digitCount text = 0 := by
  apply List.countP_eq_zero.2
  intro c member
  simp [none c member]

/-- Trimming takes no digits off. -/
theorem digitCount_trim (text : Text) : digitCount (trim text) = digitCount text := by
  have blanks (part : Text) (blank : part.all isBlank = true) : digitCount part = 0 := by
    apply digitCount_eq_zero
    intro c member
    cases digit : c.isDigit with
    | false => rfl
    | true =>
      have filled := isBlank_of_isDigit digit
      have empty := List.all_eq_true.1 blank c member
      rw [filled] at empty
      cases empty
  obtain ⟨front, back, split, blankFront, blankBack⟩ := strip_split isBlank text
  rw [← trim_eq_strip] at split
  have counted := congrArg digitCount split
  rw [digitCount_append, digitCount_append, blanks front blankFront, blanks back blankBack]
    at counted
  omega

/-- Blanks are no digits, so taking them off loses none. -/
theorem digitSum_trim (texts : List Text) : digitSum (texts.map trim) = digitSum texts := by
  induction texts with
  | nil => rfl
  | cons text texts inductionHypothesis =>
    rw [List.map_cons, digitSum_cons, digitSum_cons, digitCount_trim, inductionHypothesis]

/-- A quoted text has the digits of the text. -/
theorem digitCount_quote (text : Text) : digitCount (Sql.quote text) = digitCount text := by
  have character (c : Char) : digitCount (Sql.quoteCharacter c) = digitCount [c] := by
    unfold Sql.quoteCharacter
    split
    · next backslash =>
      subst backslash
      rfl
    · split
      · next quote =>
        subst quote
        rfl
      · rfl
  have written : digitCount (text.flatMap Sql.quoteCharacter) = digitCount text := by
    induction text with
    | nil => rfl
    | cons c text inductionHypothesis =>
      rw [List.flatMap_cons, digitCount_append, character, inductionHypothesis,
        ← digitCount_append]
      rfl
  have opening : Sql.quote text = ['\''] ++ text.flatMap Sql.quoteCharacter ++ ['\''] := rfl
  have mark : digitCount ['\''] = 0 := by decide
  rw [opening, digitCount_append, digitCount_append, mark, written]
  omega

end Text

open Text

/-! ## The bounds of a range -/

/-- A text keeps the digits of what it is put around. -/
theorem Text.digitCount_pos_inside {text : Text} (digits : 0 < digitCount text)
    (front back : Text) : 0 < digitCount (front ++ text ++ back) := by
  rw [digitCount_append, digitCount_append]
  omega

/-- A bound in seconds has a digit. -/
theorem Sql.digitCount_secondBound_pos (instant : Instant) : 0 < digitCount (secondBound instant) :=
  digitCount_pos_inside (Numeral.digitCount_writeInt_pos _) _ _

/-- A bound in fractional seconds has a digit. -/
theorem Sql.digitCount_exactSecondBound_pos (instant : Instant) :
    0 < digitCount (exactSecondBound instant) :=
  digitCount_pos_inside (Binary64.digitCount_writeNumber_pos instant.fractionalSeconds_finite) _ _

/-- A bound in milliseconds has a digit. -/
theorem Sql.digitCount_millisecondBound_pos (instant : Instant) :
    0 < digitCount (millisecondBound instant) :=
  digitCount_pos_inside (Numeral.digitCount_writeInt_pos _) _ _

/-- A bound by its date has a digit. -/
theorem Sql.digitCount_dateBound_pos (instant : Instant) : 0 < digitCount (dateBound instant) := by
  have digits : 0 < digitCount (quote instant.date.write) := by
    rw [digitCount_quote]
    exact Date.digitCount_write_pos _
  exact digitCount_pos_inside digits _ _

/-- A condition between bounds has its column twice, and the digits of the bounds. -/
theorem Sql.digitCount_between {bound : Instant → Text}
    (digits : ∀ instant, 0 < digitCount (bound instant)) (column : Text) (range : TimeRange) :
    digitCount column < digitCount (between bound column range) := by
  have start := digits range.start
  unfold between
  simp only [digitCount_append]
  omega

namespace Callee

/-- A built-in macro that comes after the ad-hoc filter. -/
def IsLater (callee : Callee) : Prop := callee ≠ .conditionalAll ∧ callee ≠ .adHocFilter

/-- The form of a later macro has the digits of its arguments, and more. There is a case
for each macro, and each form has a number of its own. -/
theorem digitSum_lt_form {callee : Callee} (later : callee.IsLater) (context : Context σ)
    (range : TimeRange) {arguments : List Text} (count : arguments.length = callee.arity) :
    digitSum arguments < digitCount (fill (callee.form context range arguments) arguments) := by
  have interval := Binary64.digitCount_writeNumber_pos context.intervalSeconds_finite
  have millis := Numeral.digitCount_write_pos context.intervalMilliseconds
  cases callee with
  | conditionalAll => exact absurd rfl later.1
  | adHocFilter => exact absurd rfl later.2
  | intervalSeconds =>
    obtain rfl := List.length_eq_zero_iff.1 count
    simpa [form] using interval
  | timeInterval | timeIntervalMillis =>
    obtain ⟨column, rfl⟩ := List.length_eq_one_iff.1 count
    simp only [form, fill_literal, fill_argument, fill_nil, digitCount_append, digitSum_cons,
      List.getD_cons_zero, digitSum_nil]
    omega
  | timeFilter =>
    obtain ⟨column, rfl⟩ := List.length_eq_one_iff.1 count
    simpa [form, fill_betweenForm, digitSum] using
      Sql.digitCount_between Sql.digitCount_secondBound_pos column range
  | timeFilterMillis =>
    obtain ⟨column, rfl⟩ := List.length_eq_one_iff.1 count
    simpa [form, fill_betweenForm, digitSum] using
      Sql.digitCount_between Sql.digitCount_millisecondBound_pos column range
  | dateFilter =>
    obtain ⟨column, rfl⟩ := List.length_eq_one_iff.1 count
    simpa [form, fill_betweenForm, digitSum] using
      Sql.digitCount_between Sql.digitCount_dateBound_pos column range
  | dateTimeFilter | dateTimeFilterShort =>
    obtain ⟨dates, times, rfl⟩ := exists_pair_of_length count
    have days := Sql.digitCount_between Sql.digitCount_dateBound_pos dates range
    have seconds := Sql.digitCount_between Sql.digitCount_secondBound_pos times range
    simp only [form, fill_append, fill_literal, fill_betweenForm, List.getD_cons_zero,
      List.getD_cons_succ, digitCount_append, digitSum_cons, digitSum_nil]
    omega
  | toTime | fromTime =>
    obtain rfl := List.length_eq_zero_iff.1 count
    simpa [form] using Sql.digitCount_exactSecondBound_pos _
  | toTimeMillis | fromTimeMillis =>
    obtain rfl := List.length_eq_zero_iff.1 count
    simpa [form] using Sql.digitCount_millisecondBound_pos _

/-! ## Runs -/

/-- What a call takes up besides its name has no digits but those of its arguments. It is
nothing but parentheses and blanks, or the list of the arguments with its commas. -/
theorem digitCount_consumed (text : Text) :
    digitCount text ≤ digitSum (argumentsOf text).1 + digitCount (argumentsOf text).2 := by
  obtain ⟨consumed, split, inside⟩ := argumentsOf_consumed text
  have counted := congrArg digitCount split
  rw [digitCount_append] at counted
  rcases inside with ⟨-, marks⟩ | listed
  · have none : digitCount consumed = 0 := by
      apply digitCount_eq_zero
      intro c member
      rcases marks c member with rfl | rfl | blank
      · rfl
      · rfl
      · cases digit : c.isDigit with
        | false => rfl
        | true =>
          rw [isBlank_of_isDigit digit] at blank
          cases blank
    omega
  · have opening : digitCount ['('] = 0 := by decide
    have closing : digitCount [')'] = 0 := by decide
    rw [listed, ← List.singleton_append, digitCount_append, digitCount_append, opening, closing,
      digitCount_intercalate] at counted
    omega

/-- Texts that are expanded one after the other keep their digits together if each of
them does. -/
theorem digitSum_le_of_mapM {expand : Text → Expansion σ Text} {texts results : List Text}
    {state final : σ}
    (grows : ∀ text ∈ texts, ∀ {result state final},
      expand text state = (.ok result, final) → digitCount text ≤ digitCount result)
    (ran : texts.mapM expand state = (.ok results, final)) : digitSum texts ≤ digitSum results := by
  induction texts generalizing results state with
  | nil => exact Nat.zero_le _
  | cons text texts inductionHypothesis =>
    rw [List.mapM_cons] at ran
    obtain ⟨result, between, first, others⟩ := Expansion.bind_eq_ok.1 ran
    obtain ⟨results, last, second, finish⟩ := Expansion.bind_eq_ok.1 others
    obtain ⟨rfl, rfl⟩ := Expansion.pure_eq_ok.1 finish
    have here := grows text List.mem_cons_self first
    have there := inductionHypothesis
      (fun text member => grows text (List.mem_cons_of_mem _ member)) second
    rw [digitSum_cons, digitSum_cons]
    omega

/-- The name of a macro has no digit, so a call has those of its arguments only. -/
theorem digitCount_name (callee : Callee) : digitCount callee.name = 0 := by
  cases callee <;> decide

/-- A successful run of a later macro loses no digit, and gains one if there is an
invocation. The induction is on the text: the arguments and the text behind an
invocation are shorter. -/
theorem digitCount_meaning {callee : Callee} (later : callee.IsLater) {context : Context σ}
    {range : TimeRange} (ranged : context.timeRange = some range) (text : Text) {result : Text}
    {state final : σ} (ran : callee.applier.meaning context text state = (.ok result, final)) :
    digitCount text ≤ digitCount result ∧
      (Occurs callee.name text → digitCount text < digitCount result) := by
  induction size : text.length using Nat.strongRecOn generalizing text result state final with
  | ind length inductionHypothesis =>
    cases search : occurrence? (callee.applier : Applier σ).name none text with
    | none =>
      rw [meaning_of_none search] at ran
      obtain ⟨rfl, -⟩ := Expansion.pure_eq_ok.1 ran
      have absent : ¬ Occurs callee.name text := by
        rw [applier_name] at search
        exact (locate?_eq_none_iff callee.name_ne_nil).1 (Option.map_eq_none_iff.1 search)
      exact ⟨Nat.le_refl _, fun occurs => absurd occurs absent⟩
    | some occurrence =>
      rw [meaning_of_some search] at ran
      obtain ⟨arguments, _, expandedArguments, ran⟩ := Expansion.bind_eq_ok.1 ran
      obtain ⟨replacement, _, expanded, ran⟩ := Expansion.bind_eq_ok.1 ran
      obtain ⟨behind, _, expandedBehind, ran⟩ := Expansion.bind_eq_ok.1 ran
      obtain ⟨rfl, rfl⟩ := Expansion.pure_eq_ok.1 ran
      have keptArguments := digitSum_le_of_mapM (fun argument member _ _ _ ran =>
        (inductionHypothesis _ (size ▸ occurrence?_argument_length search member) argument ran
          rfl).1) expandedArguments
      have keptBehind := (inductionHypothesis _
        (size ▸ occurrence?_rest_length callee.applier.named search) _ expandedBehind rfl).1
      -- An invocation with other arguments than the macro takes has no replacement.
      have accepted : callee.Accepts arguments := by
        apply Decidable.byContradiction
        intro refused
        rw [expand_of_not_accepts (by exact refused)] at expanded
        exact Expansion.throw_ne_ok expanded
      rw [expand_of_accepts ranged (by exact accepted) (fun same => absurd same later.2)
        (fun same => absurd same later.1)] at expanded
      obtain ⟨rfl, -⟩ := Expansion.pure_eq_ok.1 expanded
      have count : (arguments.map Text.trim).length = callee.arity := by
        rw [List.length_map]
        exact accepted.1
      have gained := digitSum_lt_form later context range count
      have trimmed := digitSum_trim arguments
      obtain ⟨⟨before, after⟩, located, rfl⟩ := Option.map_eq_some_iff.1 search
      have split := congrArg digitCount (locate?_eq_append located)
      have consumed := digitCount_consumed after
      rw [applier_name, digitCount_append, digitCount_append, digitCount_name] at split
      simp only [digitCount_append]
      simp only at keptArguments keptBehind
      omega

end Callee

end QueryMacros
