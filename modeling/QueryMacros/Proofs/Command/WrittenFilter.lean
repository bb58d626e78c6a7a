import QueryMacros.Command.Parameter
import QueryMacros.Proofs.Text.Trim

/-!
# Written filters

A filter is written as its key, its operator and its value, with blanks between them. Blanks
around the whole are taken off, and so are those in front of the value, however many there
are. Only behind the key a second blank counts: it separates the key from an empty operator,
so the filter is refused. With one blank there, of whatever kind, a written filter is read
as the filter that was meant.
-/
namespace QueryMacros

/-! ## Blanks -/

namespace Text

/-- A text is split at its first blank. -/
theorem splitBlank?_append_cons {front : Text} (filled : front.any isBlank = false)
    {blank : Char} (isBlank : isBlank blank = true) (rest : Text) :
    splitBlank? (front ++ blank :: rest) = some (front, rest) := by
  induction front with
  | nil => exact if_pos isBlank
  | cons c front inductionHypothesis =>
    rw [List.any_cons, Bool.or_eq_false_iff] at filled
    obtain ⟨here, later⟩ := filled
    rw [List.cons_append, splitBlank?, if_neg (by simp [here]), inductionHypothesis later]
    rfl

/-- A text without blanks is not split. -/
theorem splitBlank?_of_filled {text : Text} (filled : text.any isBlank = false) :
    splitBlank? text = none := by
  induction text with
  | nil => rfl
  | cons c text inductionHypothesis =>
    rw [List.any_cons, Bool.or_eq_false_iff] at filled
    obtain ⟨here, later⟩ := filled
    rw [splitBlank?, if_neg (by simp [here]), inductionHypothesis later]
    rfl

/-- A text without blanks is solid if it is there at all. -/
theorem solid_of_filled {text : Text} (inhabited : text ≠ []) (filled : text.any isBlank = false) :
    Solid isBlank text :=
  Solid.of_forall inhabited (by simpa using filled)

/-- A text that trimming leaves as it is either is empty or is solid at both ends. -/
theorem solid_of_trimmed {text : Text} (trimmed : trim text = text) (inhabited : text ≠ []) :
    Solid isBlank text := by
  rw [trim_eq_strip] at trimmed
  cases filled : text.all isBlank with
  | true => exact absurd (trimmed.symm.trans (strip_of_all filled)) inhabited
  | false => exact trimmed ▸ solid_strip filled

/-- Blanks in front of a trimmed text are all that trimming takes off. -/
theorem trim_append_trimmed {blanks text : Text} (blank : blanks.all isBlank = true)
    (trimmed : trim text = text) : trim (blanks ++ text) = text := by
  by_cases inhabited : text = []
  · rw [inhabited, List.append_nil, trim_eq_strip, strip_of_all blank]
  · have stripped := strip_of_solid blank (solid_of_trimmed trimmed inhabited) List.all_nil
    rwa [List.append_nil] at stripped

end Text

namespace FilterOperator

/-- The sign of an operator has no blank in it. -/
theorem symbol_filled (operator : FilterOperator) : operator.symbol.any Text.isBlank = false := by
  cases operator <;> decide

/-- No operator has an empty symbol. -/
theorem symbol_ne_nil (operator : FilterOperator) : operator.symbol ≠ [] := by
  cases operator <;> decide

/-- The symbol of an operator is read as the operator. -/
theorem read_symbol (operator : FilterOperator) : read operator.symbol = .ok operator := by
  cases operator <;> rfl

end FilterOperator

namespace Command

open Text

/-- A filter as it is written: its three parts, and the runs of blanks around them. -/
structure WrittenFilter where
  key : Text
  operator : FilterOperator
  value : Text
  front : Text
  behindKey : Text
  behindOperator : Text
  back : Text
  key_ne_nil : key ≠ []
  key_filled : key.any isBlank = false
  value_trimmed : trim value = value
  front_blank : front.all isBlank = true
  behindKey_ne_nil : behindKey ≠ []
  behindKey_blank : behindKey.all isBlank = true
  behindOperator_ne_nil : behindOperator ≠ []
  behindOperator_blank : behindOperator.all isBlank = true
  back_blank : back.all isBlank = true

namespace WrittenFilter

/-- The text of a written filter. -/
def text (written : WrittenFilter) : Text :=
  written.front ++ written.key ++ written.behindKey ++ written.operator.symbol ++
    written.behindOperator ++ written.value ++ written.back

/-- The filter that is meant. The word for NULL as its value stands for NULL. -/
def filter (written : WrittenFilter) : AdHocFilter where
  key := written.key
  operator := written.operator
  value := if equalsIgnoringAsciiCase written.value nullWord then none else some written.value

/-- What is left of the operator and the value when blanks are taken off at the end. Where
the value is empty the blanks in front of it are taken off, too. -/
def rest (written : WrittenFilter) : Text :=
  if written.value = [] then written.operator.symbol
  else written.operator.symbol ++ written.behindOperator ++ written.value

/-- What is left of operator and value has no blank at its ends. -/
theorem solid_rest (written : WrittenFilter) : Solid isBlank written.rest := by
  have solid := solid_of_filled written.operator.symbol_ne_nil written.operator.symbol_filled
  unfold rest
  split
  · exact solid
  · next inhabited =>
    rw [List.append_assoc]
    exact ⟨solid.starts.append _,
      ((solid_of_trimmed written.value_trimmed inhabited).ends.append _).append _⟩

/-- The blanks around a written filter are taken off. -/
theorem trim_text (written : WrittenFilter) :
    trim written.text = written.key ++ written.behindKey ++ written.rest := by
  have solid : Solid isBlank (written.key ++ written.behindKey ++ written.rest) := by
    have key := solid_of_filled written.key_ne_nil written.key_filled
    rw [List.append_assoc]
    exact ⟨key.starts.append _, (written.solid_rest.ends.append _).append _⟩
  obtain ⟨behind, blank, split⟩ : ∃ behind, behind.all isBlank = true ∧
      written.text = written.front ++ (written.key ++ written.behindKey ++ written.rest) ++
        behind := by
    by_cases vacant : written.value = []
    · refine ⟨written.behindOperator ++ written.back, ?_, ?_⟩
      · rw [List.all_append, written.behindOperator_blank, written.back_blank, Bool.true_and]
      · simp [text, rest, vacant]
    · exact ⟨written.back, written.back_blank, by simp [text, rest, vacant]⟩
  rw [split, trim_eq_strip]
  exact strip_of_solid written.front_blank solid blank

/-- The operator is split off at the blank behind it, and the value follows after further
blanks. -/
theorem split_rest (written : WrittenFilter) :
    ∃ behind, (splitBlank? written.rest).getD (written.rest, []) =
      (written.operator.symbol, behind) ∧ trim behind = written.value := by
  by_cases vacant : written.value = []
  · refine ⟨[], ?_, vacant.symm⟩
    rw [rest, if_pos vacant, splitBlank?_of_filled written.operator.symbol_filled]
    rfl
  · obtain ⟨blank, blanks, run⟩ := List.exists_cons_of_ne_nil written.behindOperator_ne_nil
    have allBlank := written.behindOperator_blank
    rw [run, List.all_cons, Bool.and_eq_true] at allBlank
    refine ⟨blanks ++ written.value, ?_, trim_append_trimmed allBlank.2 written.value_trimmed⟩
    rw [rest, if_neg vacant, run, List.append_assoc, List.cons_append,
      splitBlank?_append_cons written.operator.symbol_filled allBlank.1]
    rfl

end WrittenFilter

/-- A written filter is read as the filter that is meant exactly if one blank stands
behind its key. A second one there makes the operator empty. Trimming leaves the key, the
blanks behind it and the rest, which is split at the first of these blanks. -/
theorem readFilter_text (written : WrittenFilter) :
    readFilter written.text =
      if written.behindKey.length = 1 then .ok written.filter
      else .error (.unknownOperator []) := by
  obtain ⟨blank, blanks, run⟩ := List.exists_cons_of_ne_nil written.behindKey_ne_nil
  have allBlank := written.behindKey_blank
  rw [run, List.all_cons, Bool.and_eq_true] at allBlank
  have split : splitBlank? (trim written.text) = some (written.key, blanks ++ written.rest) := by
    rw [written.trim_text, run, List.append_assoc, List.cons_append,
      splitBlank?_append_cons written.key_filled allBlank.1]
  cases blanks with
  | nil =>
    obtain ⟨behind, splitRest, value⟩ := written.split_rest
    rw [List.nil_append] at split
    simp only [readFilter, split, splitRest, FilterOperator.read_symbol, value, run,
      List.length_singleton, ↓reduceIte]
    rfl
  | cons second others =>
    rw [List.all_cons, Bool.and_eq_true] at allBlank
    -- The second blank ends the operator before it has begun.
    have splitRest : splitBlank? (second :: others ++ written.rest) =
        some ([], others ++ written.rest) := if_pos allBlank.2.1
    have several : ¬ (blank :: second :: others).length = 1 := by simp
    simp only [readFilter, split, splitRest, run, several, ↓reduceIte]
    rfl

/-- Two blanks behind the key and a tab behind the operator. -/
def spacedOut : WrittenFilter where
  key := "level"
  operator := .equal
  value := "error message"
  front := []
  behindKey := "  "
  behindOperator := "\t"
  back := "\n"
  key_ne_nil := by decide
  key_filled := by decide
  value_trimmed := by decide
  front_blank := by decide
  behindKey_ne_nil := by decide
  behindKey_blank := by decide
  behindOperator_ne_nil := by decide
  behindOperator_blank := by decide
  back_blank := by decide

/-- The second blank behind the key alone makes the difference. -/
theorem readFilter_text_spacedOut :
    readFilter "level  =\terror message\n" = .error (.unknownOperator []) ∧
      readFilter "level =\terror message\n" = .ok ⟨"level", .equal, some "error message"⟩ :=
  ⟨readFilter_text spacedOut, readFilter_text
    { spacedOut with
      behindKey := " "
      behindKey_ne_nil := by decide
      behindKey_blank := by decide }⟩

end Command

end QueryMacros
