import QueryMacros.Proofs.Macro.Occurring
import QueryMacros.Proofs.Macro.Rewriting

/-!
# Names at a seam

Where two texts are joined, a name can stand in the front text, in the back text, or
across the seam. It stands inside the front text if the character behind it does too; a
name that ends exactly at the seam counts as across, because the back text decides
whether a word ends there. A name that is neither inside the front text nor across the
seam is searched for in the back text only.
-/
namespace QueryMacros.Macro

/-- The name occurs in a front text, and the character behind it is part of that text. -/
def Inside (name front : Text) : Prop :=
  ∃ before c behind, front = before ++ name ++ c :: behind ∧
    Text.wordEdge name.getLast? (some c) = true

/-- The name begins in the front text and reaches its end, or goes on behind it. -/
def Across (name front rest : Text) : Prop :=
  ∃ before part remainder behind, part ≠ [] ∧ name = part ++ remainder ∧
    front = before ++ part ∧ rest = remainder ++ behind ∧
    Text.wordEdge name.getLast? behind.head? = true

/-- A name at the front of two joined texts lies in the first of them or reaches its end. -/
theorem inside_or_across_of_nameAt? {name front rest behind : Text} (filled : front ≠ [])
    (found : nameAt? name none (front ++ rest) = some behind) :
    Inside name front ∨ Across name front rest := by
  obtain ⟨split, edge⟩ := nameAt?_eq_some_iff.1 found
  rcases List.append_eq_append_iff.1 split with ⟨remainder, named, back⟩ | ⟨inner, fronted, rested⟩
  · exact Or.inr ⟨[], front, remainder, behind, filled, named, rfl, back, edge⟩
  · cases inner with
    | nil =>
      rw [List.append_nil] at fronted
      rw [List.nil_append] at rested
      refine Or.inr ⟨[], front, [], behind, filled, ?_, rfl, rested.symm, edge⟩
      rw [List.append_nil, fronted]
    | cons c inner =>
      rw [rested] at edge
      exact Or.inl ⟨[], c, inner, fronted, edge⟩

/-- At the front of two joined texts a name stands neither inside the first nor across
the seam, if it does so nowhere. -/
theorem nameAt?_append_of_apart {name front rest : Text} (filled : front ≠ [])
    (clear : ¬ Inside name front) (apart : ¬ Across name front rest) :
    nameAt? name none (front ++ rest) = none := by
  cases found : nameAt? name none (front ++ rest) with
  | none => rfl
  | some behind =>
    rcases inside_or_across_of_nameAt? filled found with inside | across
    · exact absurd inside clear
    · exact absurd across apart

/-- What stands inside a text stands inside any longer one. -/
theorem inside_cons {name front : Text} (c : Char) (inside : Inside name front) :
    Inside name (c :: front) := by
  obtain ⟨before, d, behind, rfl, edge⟩ := inside
  exact ⟨c :: before, d, behind, rfl, edge⟩

/-- What stands across a seam does so when more is put in front. -/
theorem across_cons {name front rest : Text} (c : Char) (across : Across name front rest) :
    Across name (c :: front) rest := by
  obtain ⟨before, part, remainder, behind, filled, named, rfl, rested, edge⟩ := across
  exact ⟨c :: before, part, remainder, behind, filled, named, rfl, rested, edge⟩

/-- What is inside the front text occurs whatever is put behind it. -/
theorem Inside.occurs_append {name front : Text} (inside : Inside name front) (rest : Text) :
    Occurs name (front ++ rest) := by
  obtain ⟨before, c, behind, rfl, edge⟩ := inside
  exact ⟨before, c :: behind ++ rest, by simp, edge⟩

/-- A name that does not occur in a text does not stand inside it. -/
theorem not_inside_of_not_occurs {name front : Text} (absent : ¬ Occurs name front) :
    ¬ Inside name front := by
  intro inside
  have occurs := inside.occurs_append []
  rw [List.append_nil] at occurs
  exact absent occurs

/-- A name that ends in a word does not reach out of a text that it does not occur in, if
the text behind goes on with a character that no name of this kind goes on with. -/
theorem not_across_of_foreign {first c : Char} {letters front : Text}
    (ends : (first :: letters).getLast?.any Text.isWord = true)
    (absent : ¬ Occurs (first :: letters) front) (foreign : c ∉ letters) (rest : Text) :
    ¬ Across (first :: letters) front (c :: rest) := by
  rintro ⟨before, part, remainder, behind, filled, named, rfl, rested, edge⟩
  cases remainder with
  | nil =>
    rw [List.append_nil] at named
    have last : Text.wordEdge (first :: letters).getLast? ([] : Text).head? = true := by
      simp [Text.wordEdge, ends]
    exact absent ⟨before, [], by rw [named, List.append_nil], last⟩
  | cons d remainder =>
    obtain ⟨rfl, -⟩ := List.cons.inj rested
    cases part with
    | nil => exact filled rfl
    | cons e part =>
      obtain ⟨-, same⟩ := List.cons.inj named
      rw [same] at foreign
      simp at foreign

/-- A name that occurs in a text occurs when more is put in front: it does not look
back. -/
theorem Occurs.append_left {name rest : Text} (occurs : Occurs name rest) (front : Text) :
    Occurs name (front ++ rest) := by
  obtain ⟨before, behind, rfl, edge⟩ := occurs
  exact ⟨front ++ before, behind, by simp, edge⟩

section Search

variable {name front rest : Text}

/-- A front text that the name does not lie in, and does not reach out of, is passed
over. -/
theorem locate?_append (named : name ≠ []) (clear : ¬ Inside name front)
    (apart : ¬ Across name front rest) :
    locate? name none (front ++ rest) =
      (locate? name none rest).map fun (before, behind) => (front ++ before, behind) := by
  induction front with
  | nil => simp
  | cons c front inductionHypothesis =>
    have absent : nameAt? name none (c :: (front ++ rest)) = none :=
      nameAt?_append_of_apart (List.cons_ne_nil c front) clear apart
    have later := inductionHypothesis (fun inside => clear (inside_cons c inside))
      (fun across => apart (across_cons c across))
    simp only [List.cons_append, locate?, absent, locate?_previous named (some c), later,
      Option.map_map]
    rfl

/-- If a name stands neither inside the first of two texts nor across the seam, it
occurs in both joined just when it occurs in the second. -/
theorem occurs_append_iff (named : name ≠ []) (clear : ¬ Inside name front)
    (apart : ¬ Across name front rest) : Occurs name (front ++ rest) ↔ Occurs name rest := by
  rw [occurs_iff_isSome named, occurs_iff_isSome named, locate?_append named clear apart,
    Option.isSome_map]

/-- In front of the first occurrence the name does not lie. -/
theorem not_inside_of_locate? {before behind text : Text} (named : name ≠ [])
    (found : locate? name none text = some (before, behind)) : ¬ Inside name before := by
  induction text generalizing before with
  | nil =>
    obtain ⟨rest, -, same⟩ := Option.map_eq_some_iff.1 found
    obtain ⟨rfl, -⟩ := Prod.mk.inj same
    rintro ⟨front, c, rest, split, -⟩
    simp at split
  | cons c text inductionHypothesis =>
    intro inside
    have split := locate?_eq_append found
    rw [locate?] at found
    cases here : nameAt? name none (c :: text) with
    | some rest =>
      rw [here] at found
      obtain ⟨rfl, -⟩ := Prod.mk.inj (Option.some.inj found)
      obtain ⟨front, d, inner, vacant, -⟩ := inside
      simp at vacant
    | none =>
      rw [here] at found
      obtain ⟨⟨front, rest⟩, later, same⟩ := Option.map_eq_some_iff.1 found
      obtain ⟨rfl, rfl⟩ := Prod.mk.inj same
      rw [locate?_previous named (some c)] at later
      obtain ⟨first, d, inner, whole, edge⟩ := inside
      cases first with
      | nil =>
        -- The name would stand at the very front, where the search has not found it.
        have found := nameAt?_eq_some_iff.2
          ⟨show c :: text = name ++ (d :: inner ++ (name ++ rest)) by
            rw [split, whole]
            simp, edge⟩
        rw [here] at found
        cases found
      | cons e first =>
        obtain ⟨-, same⟩ := List.cons.inj whole
        exact inductionHypothesis later ⟨first, d, inner, same, edge⟩

end Search

/-- A front text that the name does not lie in, and does not reach out of, is kept. -/
theorem Applier.meaning_append {σ : Type} {applier : Applier σ} {context : Context σ}
    (blind : applier.IgnoresPlace context) {front rest : Text} (clear : ¬ Inside applier.name front)
    (apart : ¬ Across applier.name front rest) :
    applier.meaning context (front ++ rest) = (front ++ ·) <$> applier.meaning context rest := by
  induction front with
  | nil => simp
  | cons c front inductionHypothesis =>
    have absent : nameAt? applier.name none (c :: (front ++ rest)) = none :=
      nameAt?_append_of_apart (List.cons_ne_nil c front) clear apart
    have later := inductionHypothesis (fun inside => clear (inside_cons c inside))
      (fun across => apart (across_cons c across))
    rw [List.cons_append, meaning_cons blind absent, later, Functor.map_map]
    rfl

end QueryMacros.Macro
