import Mathlib.Algebra.GroupWithZero.Nat
import QueryMacros.Proofs.Macro.ArgumentList
import QueryMacros.Proofs.Macro.Occurring

/-!
# The places of a name

A name that is not empty stands at a number of places of a text, inside the arguments of
other invocations too. An invocation takes up at least the place where it begins. Its
arguments, each a text of its own, and the text behind it have no places but those that
they already had where they stood: the comma or parenthesis that ends an argument is no
more part of a word than the end of a text is.
-/
namespace QueryMacros.Macro

/-- The number of places of a text at which a name stands. -/
def places (name : Text) : Text → Nat
  | [] => 0
  | c :: text =>
      if (nameAt? name none (c :: text)).isSome then places name text + 1 else places name text

section Counting

variable (name : Text)

/-- A text has all the places that its last part has. -/
theorem places_le_append (front rest : Text) : places name rest ≤ places name (front ++ rest) := by
  induction front with
  | nil => exact Nat.le_refl _
  | cons c front inductionHypothesis =>
    simp only [List.cons_append, places]
    split <;> omega

/-- A place of a text stays one if something that is no part of a word is put behind the
text. -/
theorem nameAt?_append_cons {c : Char} (foreign : Text.isWord c = false) {text : Text}
    (stands : (nameAt? name none text).isSome = true) (rest : Text) :
    (nameAt? name none (text ++ c :: rest)).isSome = true := by
  obtain ⟨behind, found⟩ := Option.isSome_iff_exists.1 stands
  obtain ⟨rfl, edge⟩ := nameAt?_eq_some_iff.1 found
  have still : Text.wordEdge name.getLast? (behind ++ c :: rest).head? = true := by
    cases behind with
    | nil => simpa [Text.wordEdge, foreign] using edge
    | cons d behind => exact edge
  have there : nameAt? name none (name ++ behind ++ c :: rest) = some (behind ++ c :: rest) :=
    nameAt?_eq_some_iff.2 ⟨List.append_assoc _ _ _, still⟩
  rw [there, Option.isSome_some]

/-- Two texts with something between them that is no part of a word keep their places. -/
theorem places_add_le_append_cons {c : Char} (foreign : Text.isWord c = false)
    (front rest : Text) :
    places name front + places name rest ≤ places name (front ++ c :: rest) := by
  induction front with
  | nil =>
    have behind := places_le_append name [c] rest
    simpa [places] using behind
  | cons d front inductionHypothesis =>
    simp only [List.cons_append, places]
    by_cases stands : (nameAt? name none (d :: front)).isSome = true
    · have kept : (nameAt? name none (d :: (front ++ c :: rest))).isSome = true :=
        nameAt?_append_cons name foreign stands rest
      rw [if_pos stands, if_pos kept]
      omega
    · rw [if_neg stands]
      split <;> omega

/-- Arguments with commas between them, and the text behind the parenthesis that ends
them, have no more places than the whole. -/
theorem places_intercalate (arguments : List Text) (rest : Text) :
    (arguments.map (places name)).sum + places name rest ≤
      places name ([','].intercalate arguments ++ ')' :: rest) := by
  have closing : Text.isWord ')' = false := by decide
  have comma : Text.isWord ',' = false := by decide
  induction arguments with
  | nil => simpa using places_le_append name [')'] rest
  | cons argument others inductionHypothesis =>
    cases others with
    | nil => simpa using places_add_le_append_cons name closing argument rest
    | cons second others =>
      have apart := places_add_le_append_cons name comma argument
        ([','].intercalate (second :: others) ++ ')' :: rest)
      rw [List.intercalate_cons_cons, List.append_assoc, List.append_assoc,
        List.singleton_append, List.map_cons, List.sum_cons]
      omega

/-- The arguments of a list and the text behind it have no more places than the whole. -/
theorem places_listing (arguments : List Text) (rest : Text) :
    (arguments.map (places name)).sum + places name rest ≤
      places name (listing arguments ++ rest) := by
  have opened := places_le_append name ['('] ([','].intercalate arguments ++ ')' :: rest)
  have written : listing arguments ++ rest =
      ['('] ++ ([','].intercalate arguments ++ ')' :: rest) := by simp [listing]
  rw [written]
  exact Nat.le_trans (places_intercalate name arguments rest) opened

/-- What follows a name has at least the places of the arguments that are read from it
and of the text behind them. -/
theorem places_argumentsOf (text : Text) :
    ((argumentsOf text).1.map (places name)).sum + places name (argumentsOf text).2 ≤
      places name text := by
  obtain ⟨consumed, split, vacant | listed⟩ := argumentsOf_consumed text
  · obtain ⟨none, -⟩ := vacant
    have behind := places_le_append name consumed (argumentsOf text).2
    rw [← split] at behind
    simpa [none] using behind
  · have apart := places_listing name (argumentsOf text).1 (argumentsOf text).2
    rw [listing, ← listed, ← split] at apart
    exact apart

end Counting

/-- An invocation takes up one place at least, besides those in its arguments and those
behind it. -/
theorem places_occurrence {name : Text} (named : name ≠ []) {text : Text} {occurrence : Occurrence}
    (found : occurrence? name none text = some occurrence) :
    1 + (occurrence.arguments.map (places name)).sum + places name occurrence.rest ≤
      places name text := by
  obtain ⟨⟨before, behind⟩, located, rfl⟩ := Option.map_eq_some_iff.1 found
  have inside := places_argumentsOf name behind
  have here : 1 + places name behind ≤ places name (name ++ behind) := by
    have stands := nameAt?_of_locate? named located
    cases name with
    | nil => exact absurd rfl named
    | cons first letters =>
      have passed := places_le_append (first :: letters) letters behind
      rw [List.cons_append] at stands ⊢
      rw [places, stands, Option.isSome_some, if_pos rfl]
      omega
  have whole := places_le_append name before (name ++ behind)
  rw [locate?_eq_append located, List.append_assoc]
  simp only
  omega

end QueryMacros.Macro
