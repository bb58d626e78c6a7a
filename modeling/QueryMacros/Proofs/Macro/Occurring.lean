import QueryMacros.Macro.Occurrence

/-!
# Where a name occurs

A name that is not empty decides by itself whether it occurs at a place: the text
in front of the place has no say, and behind the name only one character does. So
a text can be searched in parts. A front part is *silent* if the name starts in it
nowhere, whatever follows it; a silent part is passed over, and the search starts
again behind it.
-/
namespace QueryMacros.Macro

/-- The name stands somewhere in the text, and a word begins or ends right behind
it. -/
def Occurs (name text : Text) : Prop :=
  ∃ before behind, text = before ++ name ++ behind ∧
    Text.wordEdge name.getLast? behind.head? = true

/-- The name starts nowhere in the front part of a text, whatever the rest is. -/
def Silent (name : Text) : Text → Prop
  | [] => True
  | c :: front => (∀ rest, nameAt? name none (c :: front ++ rest) = none) ∧ Silent name front

/-- The character in front of a place matters to the empty name only. -/
theorem nameAt?_previous {name : Text} (named : name ≠ []) (previous : Option Char) (text : Text) :
    nameAt? name previous text = nameAt? name none text := by
  simp [nameAt?, List.getLast?_eq_some_getLast named]

/-- The character in front of a text does not matter to where a name is found: names do
not look back. -/
theorem locate?_previous {name : Text} (named : name ≠ []) (previous : Option Char) (text : Text) :
    locate? name previous text = locate? name none text := by
  cases text with
  | nil => simp only [locate?, nameAt?_previous named previous]
  | cons c text =>
    simp only [locate?, nameAt?_previous named previous]

/-- The character in front of a text does not matter to the first invocation either. -/
theorem occurrence?_previous {name : Text} (named : name ≠ []) (previous : Option Char)
    (text : Text) : occurrence? name previous text = occurrence? name none text := by
  simp only [occurrence?, locate?_previous named previous]

/-- What is found behind a place is settled by the text behind it. -/
theorem next?_eq_occurrence? {name : Text} (named : name ≠ []) (cursor : Cursor) :
    next? name cursor = occurrence? name none cursor.after :=
  occurrence?_previous named _ _

/-- A name found at the front is followed by the edge of a word. -/
theorem nameAt?_eq_some_iff {name text behind : Text} :
    nameAt? name none text = some behind ↔
      text = name ++ behind ∧ Text.wordEdge name.getLast? behind.head? = true := by
  have own : (name.getLast? <|> (none : Option Char)) = name.getLast? := by
    cases name.getLast? <;> rfl
  unfold nameAt?
  rw [own]
  constructor
  · intro found
    split at found
    · next rest starts =>
      obtain rfl := Text.behind?_eq_some_iff.1 starts
      by_cases edge : Text.wordEdge name.getLast? rest.head? = true
      · simp only [edge, ↓reduceIte, Option.some.injEq] at found
        exact ⟨by rw [found], found ▸ edge⟩
      · simp [edge] at found
    · simp at found
  · rintro ⟨rfl, edge⟩
    rw [Text.behind?_eq_some_iff.2 rfl]
    simp [edge]

/-- No name occurs in the empty text. -/
theorem not_occurs_nil {name : Text} (named : name ≠ []) : ¬ Occurs name [] := by
  rintro ⟨before, behind, split, -⟩
  have positive := List.length_pos_iff.2 named
  have vacant := congrArg List.length split
  rw [List.length_append, List.length_append, List.length_nil] at vacant
  omega

/-- A search finds nothing exactly if the name does not occur. The induction is on the
text: the name stands at the front, or in what is behind the first character. -/
theorem locate?_eq_none_iff {name text : Text} (named : name ≠ []) :
    locate? name none text = none ↔ ¬ Occurs name text := by
  induction text with
  | nil =>
    simp only [locate?, Option.map_eq_none_iff]
    constructor
    · rintro absent occurs
      exact not_occurs_nil named occurs
    · intro absent
      cases found : nameAt? name none [] with
      | none => rfl
      | some behind =>
        obtain ⟨split, edge⟩ := nameAt?_eq_some_iff.1 found
        exact absurd ⟨[], behind, by simpa using split, edge⟩ absent
  | cons c text inductionHypothesis =>
    cases found : nameAt? name none (c :: text) with
    | some behind =>
      obtain ⟨split, edge⟩ := nameAt?_eq_some_iff.1 found
      have occurs : Occurs name (c :: text) := ⟨[], behind, by simpa using split, edge⟩
      simp [locate?, found, occurs]
    | none =>
      simp only [locate?, found, Option.map_eq_none_iff, locate?_previous named (some c),
        inductionHypothesis]
      constructor
      · rintro absent ⟨before, behind, split, edge⟩
        cases before with
        | nil =>
          have here := nameAt?_eq_some_iff.2 ⟨by simpa using split, edge⟩
          rw [found] at here
          simp at here
        | cons d before =>
          obtain ⟨-, rest⟩ := List.cons.inj split
          exact absent ⟨before, behind, rest, edge⟩
      · rintro absent ⟨before, behind, rfl, edge⟩
        exact absent ⟨c :: before, behind, rfl, edge⟩

/-- A search ends where the name stands. -/
theorem nameAt?_of_locate? {name text before behind : Text} (named : name ≠ [])
    (found : locate? name none text = some (before, behind)) :
    nameAt? name none (name ++ behind) = some behind := by
  induction text generalizing before with
  | nil =>
    obtain ⟨rest, here, same⟩ := Option.map_eq_some_iff.1 found
    obtain ⟨rfl, rfl⟩ := Prod.mk.inj same
    rwa [← nameAt?_eq_append here]
  | cons c text inductionHypothesis =>
    rw [locate?] at found
    split at found
    · next rest here =>
      obtain ⟨rfl, rfl⟩ := Prod.mk.inj (Option.some.inj found)
      rwa [← nameAt?_eq_append here]
    · obtain ⟨⟨front, rest⟩, later, same⟩ := Option.map_eq_some_iff.1 found
      obtain ⟨rfl, rfl⟩ := Prod.mk.inj same
      rw [locate?_previous named (some c)] at later
      exact inductionHypothesis later

/-- A silent front part is passed over. -/
theorem locate?_silent_append {name front : Text} (named : name ≠ []) (silent : Silent name front)
    (rest : Text) :
    locate? name none (front ++ rest) =
      (locate? name none rest).map fun (before, behind) => (front ++ before, behind) := by
  induction front with
  | nil => simp
  | cons c front inductionHypothesis =>
    have absent : nameAt? name none (c :: (front ++ rest)) = none := silent.1 rest
    simp only [List.cons_append, locate?, absent, locate?_previous named (some c),
      inductionHypothesis silent.2, Option.map_map]
    rfl

/-- Where a name starts in neither of two texts, it does not start in both joined. -/
theorem silent_append {name front rest : Text} (first : Silent name front)
    (second : Silent name rest) : Silent name (front ++ rest) := by
  induction front with
  | nil => exact second
  | cons c front inductionHypothesis =>
    exact ⟨fun tail => by simpa using first.1 (rest ++ tail), inductionHypothesis first.2⟩

/-- A name does not start at a character that is not its own first one. -/
theorem nameAt?_first_ne {first c : Char} {name : Text} (different : c ≠ first) (text : Text) :
    nameAt? (first :: name) none (c :: text) = none := by
  have unequal : ¬ first = c := fun same => different same.symm
  simp [nameAt?, Text.behind?, unequal]

/-- Nor where the second character is not its own second one. -/
theorem nameAt?_second_ne {first second c : Char} {name : Text} (different : c ≠ second)
    (text : Text) : nameAt? (first :: second :: name) none (first :: c :: text) = none := by
  have unequal : ¬ second = c := fun same => different same.symm
  simp [nameAt?, Text.behind?, unequal]

/-- A name at the front of a text is the first one in it. -/
theorem locate?_of_nameAt? {name text behind : Text} (here : nameAt? name none text = some behind) :
    locate? name none text = some ([], behind) := by
  cases text with
  | nil => rw [locate?, here, Option.map_some]
  | cons c text => rw [locate?, here]

/-- A text without the first character of a name is silent. -/
theorem silent_of_not_mem {first : Char} {name front : Text} (absent : first ∉ front) :
    Silent (first :: name) front := by
  induction front with
  | nil => trivial
  | cons c front inductionHypothesis =>
    obtain ⟨different, others⟩ := List.ne_and_not_mem_of_not_mem_cons absent
    exact ⟨fun rest => nameAt?_first_ne (fun same => different same.symm) _,
      inductionHypothesis others⟩

/-- A text has no invocation just when the name does not occur in it. -/
theorem occurrence?_eq_none_iff {name text : Text} (named : name ≠ []) :
    occurrence? name none text = none ↔ ¬ Occurs name text := by
  rw [occurrence?, Option.map_eq_none_iff]
  exact locate?_eq_none_iff named

/-- A name occurs just when the search for it finds a place. -/
theorem occurs_iff_isSome {name text : Text} (named : name ≠ []) :
    Occurs name text ↔ (locate? name none text).isSome = true := by
  have absent : locate? name none text = none ↔ ¬ Occurs name text := locate?_eq_none_iff named
  cases found : locate? name none text with
  | none => simp [absent.1 found]
  | some place =>
    have occurs : Occurs name text := by
      apply Classical.byContradiction
      intro missing
      rw [absent.2 missing] at found
      cases found
    simp [occurs]

/-- Behind a silent front part a name occurs where it occurs without that part. -/
theorem occurs_append_of_silent {name front : Text} (named : name ≠ [])
    (silent : Silent name front) (rest : Text) :
    Occurs name (front ++ rest) ↔ Occurs name rest := by
  rw [occurs_iff_isSome named, occurs_iff_isSome named, locate?_silent_append named silent,
    Option.isSome_map]

/-- A name that starts nowhere in a text does not occur in it. -/
theorem not_occurs_of_silent {name text : Text} (named : name ≠ []) (silent : Silent name text) :
    ¬ Occurs name text := by
  rw [← List.append_nil text, occurs_append_of_silent named silent]
  exact not_occurs_nil named

/-- A name occurs at the front of a text or behind its first character. -/
theorem occurs_cons {name : Text} (named : name ≠ []) (c : Char) (text : Text) :
    Occurs name (c :: text) ↔ (nameAt? name none (c :: text)).isSome = true ∨ Occurs name text := by
  rw [occurs_iff_isSome named, occurs_iff_isSome named]
  cases found : nameAt? name none (c :: text) with
  | some behind => simp [locate?, found]
  | none => simp [locate?, found, locate?_previous named (some c)]

/-- Where the name does not stand at the front, the search goes on behind the first
character. -/
theorem occurrence?_cons {name : Text} (named : name ≠ []) {c : Char} {text : Text}
    (absent : nameAt? name none (c :: text) = none) :
    occurrence? name none (c :: text) = (occurrence? name none text).map fun occurrence =>
      { occurrence with before := c :: occurrence.before } := by
  unfold occurrence?
  rw [locate?, absent]
  simp only [locate?_previous named (some c), Option.map_map]
  rfl

/-- Induction along a search. A property of places holds at each of them if it holds where
no occurrence is left, and if it goes over to a place from the arguments of the next
occurrence and from the text behind it, wherever that text stands. All of these are shorter
than the text that was searched. -/
@[elab_as_elim]
theorem Cursor.search_induction {name : Text} (named : name ≠ []) {motive : Cursor → Prop}
    (absent : ∀ cursor, next? name cursor = none → motive cursor)
    (present : ∀ cursor occurrence, next? name cursor = some occurrence →
      (∀ argument ∈ occurrence.arguments, motive (.start argument)) →
        (∀ before, motive ⟨before, occurrence.rest⟩) → motive cursor)
    (cursor : Cursor) : motive cursor := by
  induction left : cursor.after.length using Nat.strongRecOn generalizing cursor with
  | ind length inductionHypothesis =>
    cases search : next? name cursor with
    | none => exact absent cursor search
    | some occurrence =>
      have restShorter := occurrence?_rest_length named search
      apply present cursor occurrence search
      · intro argument member
        have shorter := occurrence?_argument_length search member
        exact inductionHypothesis _ (left ▸ shorter) (.start argument) rfl
      · intro before
        exact inductionHypothesis _ (left ▸ restShorter) ⟨before, occurrence.rest⟩ rfl

end QueryMacros.Macro
