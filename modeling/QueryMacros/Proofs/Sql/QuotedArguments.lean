import QueryMacros.Proofs.Macro.ArgumentList
import QueryMacros.Proofs.Sql.Lexing

/-!
# Literals as arguments

A literal is written for the database, which reads a doubled quote as one quote inside
the literal. An argument list reads it otherwise: it leaves the quote and enters it again.
Both come out of the literal at its last character and no earlier, whatever text it
stands for. So literals can be listed as arguments of a macro: they are taken apart where
they were joined, and each is still the literal of its text.
-/
namespace QueryMacros.Sql

open Macro

/-- The value of a text that is one literal and nothing else. -/
def literalValue? (text : Text) : Option Text :=
  match tokens? text with
  | some [.literal value] => some value
  | _ => none

/-- A character that is written inside a literal leaves an argument list inside its
quote. -/
theorem walk_quoteCharacter (depth : Nat) (c : Char) :
    walk (.quoted '\'', depth) (quoteCharacter c) = some (.quoted '\'', depth) := by
  unfold quoteCharacter
  by_cases backslash : c = '\\'
  · simp [backslash, walk, advance]
  by_cases quote : c = '\''
  · simp [quote, walk, advance, isQuote]
  · simp [backslash, quote, walk, advance]

/-- A quoted text does not leave the quotes that it stands in. -/
theorem walk_flatMap_quoteCharacter (depth : Nat) (text : Text) :
    walk (.quoted '\'', depth) (text.flatMap quoteCharacter) = some (.quoted '\'', depth) := by
  induction text with
  | nil => rfl
  | cons c text inductionHypothesis =>
    rw [List.flatMap_cons, walk_append, walk_quoteCharacter, Option.bind_some, inductionHypothesis]

/-- A literal can be an argument. -/
theorem wellFormed_quote (text : Text) : WellFormed (quote text) := by
  have opened : walk outermost ['\''] = some (.quoted '\'', 0) := rfl
  have closed : walk (.quoted '\'', 0) ['\''] = some outermost := rfl
  have written : quote text = ['\''] ++ (text.flatMap quoteCharacter ++ ['\'']) := rfl
  rw [WellFormed, written, walk_append, opened, Option.bind_some, walk_append,
    walk_flatMap_quoteCharacter, Option.bind_some, closed]

/-- A literal is not blank, since it has its quotes. -/
theorem quote_not_blank (text : Text) : (quote text).all Text.isBlank = false := by
  have mark : Text.isBlank '\'' = false := by decide
  simp [quote, mark]

/-- A literal stands for the text that it was made of. -/
theorem literalValue?_quote (text : Text) : literalValue? (quote text) = some text := by
  have apart : ([] : Text).head? ≠ some '\'' := by simp
  have read : tokens? (quote text ++ []) = some [.literal text] := tokensFrom_quote text apart
  rw [List.append_nil] at read
  rw [literalValue?, read]

/-- Literals of several texts have these texts as their values. -/
theorem mapM_literalValue?_quote (texts : List Text) :
    (texts.map quote).mapM literalValue? = some texts := by
  induction texts with
  | nil => rfl
  | cons text texts inductionHypothesis =>
    simp [literalValue?_quote, inductionHypothesis]

/-- Literals behind a name are its arguments, whatever stands behind them. -/
theorem argumentsOf_listing_quote (texts : List Text) (rest : Text) :
    argumentsOf (listing (texts.map quote) ++ rest) = (texts.map quote, rest) := by
  have wellFormed : ∀ argument ∈ texts.map quote, WellFormed argument := by
    intro argument member
    obtain ⟨text, -, rfl⟩ := List.mem_map.1 member
    exact wellFormed_quote text
  have notBlank : ∀ argument ∈ texts.map quote, argument.all Text.isBlank = false := by
    intro argument member
    obtain ⟨text, -, rfl⟩ := List.mem_map.1 member
    exact quote_not_blank text
  have written : listing (texts.map quote) ++ rest =
      '(' :: [','].intercalate (texts.map quote) ++ ')' :: rest := by simp [listing]
  rw [written]
  exact argumentsOf_intercalate wellFormed notBlank rest

/-- Literals that are listed as arguments, anywhere in a text, are read back as they were
written, up to the end of the list, and stand for the texts that they were made of. -/
theorem parseArguments?_listing_quote (before rest : Text) (texts : List Text) :
    parseArguments? (before ++ (listing (texts.map quote) ++ rest)) (Text.utf8Length before) =
        some ⟨texts.map quote, Text.utf8Length (before ++ listing (texts.map quote))⟩ ∧
      (texts.map quote).mapM literalValue? = some texts := by
  constructor
  · simp only [parseArguments?, Text.cutAt?_utf8Length, Option.map_some, argumentsOf_listing_quote,
      Text.upTo_append, Text.utf8Length_append]
  · exact mapM_literalValue?_quote texts

/-- A text that ends in a backslash, one of quotes only, and one that would close the
list. -/
example : parseArguments? "f('a\\\\','''''',',)')".toList 1 =
    some ⟨["a\\".toList, "''".toList, ",)".toList].map quote, 20⟩ := by decide

end QueryMacros.Sql
