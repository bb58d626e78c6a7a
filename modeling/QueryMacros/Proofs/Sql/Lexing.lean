import QueryMacros.Sql.Literal

/-!
# Reading literals back

The database reads a query from left to right. A single quote opens a literal.
Inside it a backslash takes the next character along, and a doubled quote stands
for one; any other quote closes the literal. A text has a reading only if no
literal is left open at its end.

A quoted text is read as one literal, with the value that was quoted, as long as
no other quote follows it at once.
-/
namespace QueryMacros.Sql

/-- What is read at once: a character outside literals, or a literal with the value
that it stands for. -/
inductive Token where
  | outside (c : Char)
  | literal (value : Text)
deriving DecidableEq, Repr

/-- The tokens of a text. A literal that is open is given with the part of its value
that was read. -/
def tokensFrom : Option Text → Text → Option (List Token)
  | none, [] => some []
  | none, c :: rest =>
      if c = '\'' then tokensFrom (some []) rest
      else (tokensFrom none rest).map (.outside c :: ·)
  | some _, [] => none
  | some _, ['\\'] => none
  | some value, '\\' :: c :: rest => tokensFrom (some (value ++ [c])) rest
  | some value, '\'' :: '\'' :: rest => tokensFrom (some (value ++ ['\''])) rest
  | some value, '\'' :: rest => (tokensFrom none rest).map (.literal value :: ·)
  | some value, c :: rest => tokensFrom (some (value ++ [c])) rest

/-- The tokens of a query. There are none if a literal is left open. -/
def tokens? (text : Text) : Option (List Token) := tokensFrom none text

/-- The values of the literals, in order. -/
def literals (tokens : List Token) : List Text :=
  tokens.filterMap fun
    | .outside _ => none
    | .literal value => some value

/-- The text outside the literals, with a gap where each literal stands. -/
def outline (tokens : List Token) : List (Option Char) :=
  tokens.map fun
    | .outside c => some c
    | .literal _ => none

/-- Tokens have their literals in order. -/
@[simp] theorem literals_append (front rest : List Token) :
    literals (front ++ rest) = literals front ++ literals rest :=
  List.filterMap_append

/-- The outline of tokens is made in order. -/
@[simp] theorem outline_append (front rest : List Token) :
    outline (front ++ rest) = outline front ++ outline rest :=
  List.map_append

/-- Characters outside literals make none. -/
@[simp] theorem literals_outside (text : Text) : literals (text.map .outside) = [] := by
  induction text with
  | nil => rfl
  | cons c text inductionHypothesis => exact inductionHypothesis

/-- A text without quotes is read as it stands. -/
theorem tokensFrom_outside {front : Text} (unquoted : '\'' ∉ front) (rest : Text) :
    tokensFrom none (front ++ rest) =
      (tokensFrom none rest).map (front.map .outside ++ ·) := by
  induction front with
  | nil => simp
  | cons c front inductionHypothesis =>
    obtain ⟨different, others⟩ := List.ne_and_not_mem_of_not_mem_cons unquoted
    have ordinary : ¬ c = '\'' := fun same => different same.symm
    rw [List.cons_append, tokensFrom, if_neg ordinary, inductionHypothesis others, Option.map_map]
    rfl

/-- A character inside a literal is read back from how it is written. -/
theorem tokensFrom_quoteCharacter (value : Text) (c : Char) (rest : Text) :
    tokensFrom (some value) (quoteCharacter c ++ rest) = tokensFrom (some (value ++ [c])) rest := by
  unfold quoteCharacter
  by_cases backslash : c = '\\'
  · subst backslash
    rw [if_pos rfl]
    rfl
  by_cases quote : c = '\''
  · subst quote
    rw [if_neg backslash, if_pos rfl]
    rfl
  · rw [if_neg backslash, if_neg quote, List.singleton_append]
    simp [tokensFrom, backslash, quote]

/-- Inside a literal, a quoted text is read as the text. -/
theorem tokensFrom_flatMap_quoteCharacter (value text rest : Text) :
    tokensFrom (some value) (text.flatMap quoteCharacter ++ rest) =
      tokensFrom (some (value ++ text)) rest := by
  induction text generalizing value with
  | nil => simp
  | cons c text inductionHypothesis =>
    rw [List.flatMap_cons, List.append_assoc, tokensFrom_quoteCharacter, inductionHypothesis,
      List.append_assoc, List.singleton_append]

/-- A quoted text is read as the literal of its value, unless a quote follows it. -/
theorem tokensFrom_quote (text : Text) {rest : Text} (apart : rest.head? ≠ some '\'') :
    tokensFrom none (quote text ++ rest) = (tokensFrom none rest).map (.literal text :: ·) := by
  have opened : tokensFrom none (quote text ++ rest) =
      tokensFrom (some []) (text.flatMap quoteCharacter ++ '\'' :: rest) := by
    simp [quote, tokensFrom]
  rw [opened, tokensFrom_flatMap_quoteCharacter, List.nil_append]
  cases rest with
  | nil => rfl
  | cons c rest =>
    have ordinary : c ≠ '\'' := by simpa using apart
    simp [tokensFrom, ordinary]

end QueryMacros.Sql
