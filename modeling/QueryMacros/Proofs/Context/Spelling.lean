import QueryMacros.Context.Reference
import QueryMacros.Proofs.Text.Trim

/-!
# The spelling of references

A query refers to a variable in five ways: by its name behind a dollar, and between
braces or double brackets, with a format or without. However a reference is spelled, the
name of the variable is found in it.
-/
namespace QueryMacros

/-- The name of a variable, or of a format: a word. -/
def IsName (text : Text) : Prop := text ≠ [] ∧ ∀ c ∈ text, Text.isWord c = true

/-- The ways in which a text refers to the variable of a name. -/
inductive Spells (name : Text) : Text → Prop
  | bare : Spells name ('$' :: name)
  | braced : Spells name ('$' :: '{' :: name ++ ['}'])
  | bracedFormat {format : Text} (word : IsName format) :
      Spells name ('$' :: '{' :: name ++ ':' :: format ++ ['}'])
  | bracketed : Spells name ('[' :: '[' :: name ++ [']', ']'])
  | bracketedFormat {format : Text} (word : IsName format) :
      Spells name ('[' :: '[' :: name ++ ':' :: format ++ [']', ']'])

/-- A reference to a variable, blanks around it apart. -/
def IsReference (text : Text) : Prop := ∃ name, IsName name ∧ Spells name (Text.trim text)

namespace Reference

/-- A word ends in front of the first character that belongs to no word. -/
theorem word?_append {name rest : Text} (word : IsName name)
    (ends : rest.head?.any Text.isWord = false) : word? (name ++ rest) = some (name, rest) := by
  have filled : name.isEmpty = false := by simpa using word.1
  simp only [word?, takeWhile_append_of_stops word.2 ends, dropWhile_append_of_stops word.2 ends,
    filled, Bool.false_eq_true, ↓reduceIte]

/-- A name is read between its marks if no format follows it. -/
theorem enclosed?_plain {name closing : Text} (word : IsName name)
    (ends : closing.head?.any Text.isWord = false) (noFormat : closing.head? ≠ some ':') :
    enclosed? closing (name ++ closing) = some name := by
  unfold enclosed?
  rw [word?_append word ends, Option.bind_eq_bind, Option.bind_some]
  cases closing with
  | nil => simp
  | cons c rest =>
    have different : c ≠ ':' := by simpa using noFormat
    simp [different]

/-- A name is read in front of its format, and the format is passed over. -/
theorem enclosed?_format {name format closing : Text} (word : IsName name)
    (formatWord : IsName format) (ends : closing.head?.any Text.isWord = false) :
    enclosed? closing (name ++ ':' :: (format ++ closing)) = some name := by
  have colon : (':' :: (format ++ closing)).head?.any Text.isWord = false := by
    have separates : Text.isWord ':' = false := by decide
    simpa using separates
  unfold enclosed?
  rw [word?_append word colon, Option.bind_eq_bind, Option.bind_some]
  simp only
  rw [word?_append formatWord ends, Option.bind_some, if_pos rfl]

/-- However a reference is spelled, its name is found. A bare name does not begin with a
brace, and the other four spellings are told apart by their opening marks. -/
theorem name?_of_spells {name text : Text} (word : IsName name) (spelled : Spells name text) :
    name? text = some name := by
  have brace : ['}'].head?.any Text.isWord = false := by decide
  have bracket : [']', ']'].head?.any Text.isWord = false := by decide
  cases spelled with
  | bare =>
    have whole : word? (name ++ []) = some (name, []) := word?_append word rfl
    rw [List.append_nil] at whole
    obtain ⟨filled, marks⟩ := word
    obtain ⟨c, letters, rfl⟩ := List.exists_cons_of_ne_nil filled
    have letter := marks c List.mem_cons_self
    have notBrace : c ≠ '{' := by
      rintro rfl
      exact absurd letter (by decide)
    unfold name?
    split
    · next same =>
      obtain ⟨-, behind⟩ := List.cons.inj same
      exact absurd (List.cons.inj behind).1 notBrace
    · next same => exact absurd (List.cons.inj same).1 (by decide)
    · next same =>
      obtain ⟨-, rfl⟩ := List.cons.inj same
      rw [whole]
      rfl
    · next other => exact absurd rfl (other _)
  | braced => exact enclosed?_plain word brace (by decide)
  | bracedFormat formatWord =>
    simp only [List.cons_append, List.append_assoc]
    exact enclosed?_format word formatWord brace
  | bracketed => exact enclosed?_plain word bracket (by decide)
  | bracketedFormat formatWord =>
    simp only [List.cons_append, List.append_assoc]
    exact enclosed?_format word formatWord bracket

/-! ## What is read as a reference -/

/-- The word at the front of a text is a name if there is one. -/
theorem isName_takeWhile {text : Text} (filled : text.takeWhile Text.isWord ≠ []) :
    IsName (text.takeWhile Text.isWord) := by
  constructor
  · exact filled
  · exact fun c member => List.all_eq_true.1 List.all_takeWhile c member

/-- What is taken off the front of a text as a word is a name. -/
theorem word?_eq_some {text name rest : Text} (found : word? text = some (name, rest)) :
    IsName name ∧ text = name ++ rest := by
  unfold word? at found
  by_cases vacant : (text.takeWhile Text.isWord).isEmpty = true
  · simp [vacant] at found
  · simp only [vacant, Bool.false_eq_true, ↓reduceIte, Option.some.injEq, Prod.mk.injEq] at found
    obtain ⟨rfl, rfl⟩ := found
    constructor
    · exact isName_takeWhile (by simpa using vacant)
    · exact List.takeWhile_append_dropWhile.symm

/-- In front of the closing mark stands a name, alone or with a format behind it. -/
theorem enclosed?_eq_some {closing text name : Text} (found : enclosed? closing text = some name) :
    IsName name ∧ (text = name ++ closing ∨
      ∃ format, IsName format ∧ text = name ++ ':' :: format ++ closing) := by
  obtain ⟨⟨word, behind⟩, taken, rest⟩ := Option.bind_eq_some_iff.1 found
  obtain ⟨isName, rfl⟩ := word?_eq_some taken
  simp only at rest
  split at rest
  · next inner =>
    obtain ⟨⟨format, last⟩, takenFormat, ended⟩ := Option.bind_eq_some_iff.1 rest
    obtain ⟨isFormat, rfl⟩ := word?_eq_some takenFormat
    by_cases closed : last = closing
    · rw [if_pos closed] at ended
      obtain rfl := Option.some.inj ended
      exact ⟨isName, Or.inr ⟨format, isFormat, by rw [closed]; simp⟩⟩
    · rw [if_neg closed] at ended
      cases ended
  · by_cases closed : behind = closing
    · rw [if_pos closed] at rest
      obtain rfl := Option.some.inj rest
      exact ⟨isName, Or.inl (by rw [closed])⟩
    · rw [if_neg closed] at rest
      cases rest

/-- A text in which a name is found is one of the spellings of a reference to it. -/
theorem spells_of_name? {text name : Text} (found : name? text = some name) :
    IsName name ∧ Spells name text := by
  unfold name? at found
  split at found
  · obtain ⟨isName, rfl | ⟨format, isFormat, rfl⟩⟩ := enclosed?_eq_some found
    · exact ⟨isName, .braced⟩
    · exact ⟨isName, .bracedFormat isFormat⟩
  · obtain ⟨isName, rfl | ⟨format, isFormat, rfl⟩⟩ := enclosed?_eq_some found
    · exact ⟨isName, .bracketed⟩
    · exact ⟨isName, .bracketedFormat isFormat⟩
  · obtain ⟨⟨word, behind⟩, taken, ended⟩ := Option.bind_eq_some_iff.1 found
    obtain ⟨isName, rfl⟩ := word?_eq_some taken
    by_cases nothing : behind = []
    · rw [nothing] at ended
      obtain rfl := Option.some.inj ended
      rw [nothing, List.append_nil]
      exact ⟨isName, .bare⟩
    · simp [nothing] at ended
  · cases found

/-- A name is found in exactly the spellings of a reference to it. -/
theorem name?_eq_some_iff {text name : Text} :
    name? text = some name ↔ IsName name ∧ Spells name text := by
  constructor
  · exact spells_of_name?
  · rintro ⟨isName, spelled⟩
    exact name?_of_spells isName spelled

end Reference

/-- A reference has a name, also when the blanks around it are taken off. -/
theorem variableName?_isSome {text : Text} (reference : IsReference text) :
    (variableName? (Text.trim text)).isSome = true := by
  obtain ⟨name, word, spelled⟩ := reference
  have found := Reference.name?_of_spells word spelled
  have trimmed : Text.trim (Text.trim text) = Text.trim text := strip_strip _ _
  rw [variableName?, trimmed, found]
  rfl

end QueryMacros
