import QueryMacros.Text.Basic

/-!
# Parts between two offsets

A byte offset is a place of a text if it lies between two of its characters or at either
end of it. Two places in order bound a part of the text. An offset beyond the end or
inside a character is no place, and two offsets out of order bound nothing.
-/
namespace QueryMacros.Text

/-- A byte offset that lies between two characters of a text, or at either end. -/
def IsPlace (text : Text) (offset : Nat) : Prop :=
  ∃ before after, text = before ++ after ∧ offset = utf8Length before

/-- The part of a text between two byte offsets, if these are places in order. -/
def slice? (text : Text) (start stop : Nat) : Option Text := do
  let (front, _) ← cutAt? text stop
  let (_, part) ← cutAt? front start
  return part

/-- A part between two offsets is a part of the text with as many bytes in front of it
and up to its end. -/
theorem slice?_eq_some_iff {text part : Text} {start stop : Nat} :
    slice? text start stop = some part ↔ ∃ before behind,
      text = before ++ part ++ behind ∧ start = utf8Length before ∧
        stop = utf8Length (before ++ part) := by
  constructor
  · intro sliced
    obtain ⟨⟨front, behind⟩, cutStop, sliced⟩ := Option.bind_eq_some_iff.1 sliced
    obtain ⟨⟨before, inner⟩, cutStart, same⟩ := Option.bind_eq_some_iff.1 sliced
    obtain rfl := Option.some.inj same
    obtain ⟨rfl, rfl⟩ := cutAt?_eq_some cutStop
    obtain ⟨rfl, rfl⟩ := cutAt?_eq_some cutStart
    exact ⟨before, behind, rfl, rfl, rfl⟩
  · rintro ⟨before, behind, rfl, rfl, rfl⟩
    simp only [slice?, cutAt?_utf8Length, Option.bind_eq_bind, Option.bind_some, Option.pure_def]

/-- The part of joined texts between two seams. -/
theorem slice?_append (before part behind : Text) :
    slice? (before ++ part ++ behind) (utf8Length before) (utf8Length (before ++ part)) =
      some part :=
  slice?_eq_some_iff.2 ⟨before, behind, rfl, rfl, rfl⟩

/-- The bytes of a front part lead to a place. -/
theorem isPlace_append (before after : Text) : IsPlace (before ++ after) (utf8Length before) :=
  ⟨before, after, rfl, rfl⟩

/-- A place does not lie beyond the end of the text. -/
theorem IsPlace.le_length {text : Text} {offset : Nat} (place : IsPlace text offset) :
    offset ≤ utf8Length text := by
  obtain ⟨before, after, rfl, rfl⟩ := place
  rw [utf8Length_append]
  exact Nat.le_add_right _ _

/-- One more character at the end of a text. -/
theorem utf8Length_append_singleton (text : Text) (c : Char) :
    utf8Length (text ++ [c]) = utf8Length text + c.utf8Size := by
  rw [utf8Length_append, utf8Length_cons, utf8Length_nil, Nat.add_zero]

/-- A text that is not empty has a byte. -/
theorem utf8Length_pos {text : Text} (filled : text ≠ []) : 0 < utf8Length text := by
  cases text with
  | nil => exact absurd rfl filled
  | cons c text =>
    have positive : 0 < c.utf8Size := c.utf8Size_pos
    rw [utf8Length_cons]
    omega

end QueryMacros.Text
