/-!
# Texts

A text is the list of its characters. Every rule of this library cuts and joins
texts between two characters, so this is the one representation it computes
with; strings enter and leave at the outer layer only. A place in a text can be
named from outside by the number of bytes that its UTF-8 form has before it.
`utf8Length` measures that number and `cutAt?` finds the place again; between
them a byte offset never has to be trusted to lie on a character boundary.
-/
namespace QueryMacros

/-- A text is the list of its characters, in order. -/
abbrev Text := List Char

/-- A literal string stands for the list of its characters. -/
instance : Coe String Text := ⟨String.toList⟩

namespace Text

/-- The number of bytes of a text in UTF-8. -/
def utf8Length : Text → Nat
  | [] => 0
  | c :: rest => c.utf8Size + utf8Length rest

/-- Splits a text at a byte offset. There is no answer when the offset lies
beyond the end or inside a character, so a pair that is returned always names a
boundary, and its parts always join to the whole. -/
def cutAt? : Text → Nat → Option (Text × Text)
  | rest, 0 => some ([], rest)
  | [], _ + 1 => none
  | c :: rest, offset =>
      if c.utf8Size ≤ offset then
        (cutAt? rest (offset - c.utf8Size)).map fun (before, after) => (c :: before, after)
      else none

/-- Splits a text at the first boundary at or behind a byte offset. An offset inside a
character leads behind that character; there is no answer when the offset lies beyond
the end. -/
def cutAtOrBehind? : Text → Nat → Option (Text × Text)
  | rest, 0 => some ([], rest)
  | [], _ + 1 => none
  | c :: rest, offset + 1 =>
      (cutAtOrBehind? rest (offset + 1 - c.utf8Size)).map fun (before, after) =>
        (c :: before, after)

/-- The empty text has no bytes. -/
theorem utf8Length_nil : utf8Length [] = 0 := rfl

/-- A character in front adds its own bytes. -/
theorem utf8Length_cons (c : Char) (rest : Text) :
    utf8Length (c :: rest) = c.utf8Size + utf8Length rest := rfl

/-- Two texts have their bytes together. -/
theorem utf8Length_append (left right : Text) :
    utf8Length (left ++ right) = utf8Length left + utf8Length right := by
  induction left with
  | nil => simp [utf8Length_nil]
  | cons c left inductionHypothesis =>
    rw [List.cons_append, utf8Length_cons, utf8Length_cons, inductionHypothesis, Nat.add_assoc]

/-- Cutting at the length of a front part gives back that part. -/
theorem cutAt?_utf8Length (before after : Text) :
    cutAt? (before ++ after) (utf8Length before) = some (before, after) := by
  induction before with
  | nil => cases after <;> rfl
  | cons c before inductionHypothesis =>
    have positive : 0 < c.utf8Size := c.utf8Size_pos
    rw [utf8Length_cons, List.cons_append, cutAt?.eq_3 _ _ _ (by omega)]
    simp [inductionHypothesis]

/-- A cut only ever separates: its two parts join to the text, and the offset is
the length of the first. -/
theorem cutAt?_eq_some {text before after : Text} {offset : Nat}
    (cut : cutAt? text offset = some (before, after)) :
    text = before ++ after ∧ offset = utf8Length before := by
  fun_induction cutAt? text offset generalizing before with
  | case1 rest =>
    simp only [Option.some.injEq, Prod.mk.injEq] at cut
    obtain ⟨rfl, rfl⟩ := cut
    exact ⟨rfl, rfl⟩
  | case2 => simp at cut
  | case3 offset c rest _ fits inductionHypothesis =>
    obtain ⟨⟨front, back⟩, cutRest, same⟩ := Option.map_eq_some_iff.1 cut
    simp only [Prod.mk.injEq] at same
    obtain ⟨rfl, rfl⟩ := same
    obtain ⟨rfl, measured⟩ := inductionHypothesis cutRest
    rw [utf8Length_cons]
    exact ⟨rfl, by omega⟩
  | case4 => simp at cut

/-- At the length of a front part the first boundary is the end of that part. -/
theorem cutAtOrBehind?_utf8Length (before after : Text) :
    cutAtOrBehind? (before ++ after) (utf8Length before) = some (before, after) := by
  induction before with
  | nil => cases after <;> rfl
  | cons c before inductionHypothesis =>
    have positive : 0 < c.utf8Size := c.utf8Size_pos
    obtain ⟨offset, next⟩ : ∃ offset, utf8Length (c :: before) = offset + 1 :=
      Nat.exists_eq_add_one.2 (by rw [utf8Length_cons]; omega)
    have left : offset + 1 - c.utf8Size = utf8Length before := by
      rw [← next, utf8Length_cons]
      omega
    rw [next, List.cons_append, cutAtOrBehind?, left, inductionHypothesis, Option.map_some]

/-- The text between the start of `text` and the point where `rest` begins. It
is meant for a `rest` that `text` ends in. -/
def upTo (text rest : Text) : Text := text.take (text.length - rest.length)

/-- Up to its own rest, a text is its front. -/
theorem upTo_append (front rest : Text) : upTo (front ++ rest) rest = front := by
  simp [upTo]

/-- What follows a front part of a text, if the text starts with that part. -/
def behind? : Text → Text → Option Text
  | [], text => some text
  | _ :: _, [] => none
  | c :: front, d :: text => if c = d then behind? front text else none

/-- A text starts with a part exactly if it is that part followed by what is left
when the part is taken off. -/
theorem behind?_eq_some_iff {front text rest : Text} :
    behind? front text = some rest ↔ text = front ++ rest := by
  induction front generalizing text with
  | nil => simp [behind?]
  | cons c front inductionHypothesis =>
    cases text with
    | nil => simp [behind?]
    | cons d text =>
      by_cases same : c = d
      · simp [behind?, same, inductionHypothesis]
      · have different : ¬ d = c := fun equal => same equal.symm
        simp [behind?, same, different]

/-- The parts of a text between the occurrences of a separator, in order. There
is one part more than there are separators, so an empty text has one part. -/
def splitOn (separator : Char) : Text → List Text
  | [] => [[]]
  | c :: rest =>
      if c = separator then [] :: splitOn separator rest
      else match splitOn separator rest with
        | [] => [[c]]
        | part :: parts => (c :: part) :: parts

/-- A text without the separator is one part. -/
theorem splitOn_of_not_mem {separator : Char} {text : Text} (absent : separator ∉ text) :
    splitOn separator text = [text] := by
  induction text with
  | nil => rfl
  | cons c rest inductionHypothesis =>
    obtain ⟨different, later⟩ := not_or.1 (mt List.mem_cons.2 absent)
    rw [splitOn, if_neg (Ne.symm different), inductionHypothesis later]

/-- The first part of a text ends in front of the first separator. -/
theorem splitOn_append_cons {separator : Char} {front : Text} (absent : separator ∉ front)
    (rest : Text) :
    splitOn separator (front ++ separator :: rest) = front :: splitOn separator rest := by
  induction front with
  | nil => exact if_pos rfl
  | cons c front inductionHypothesis =>
    obtain ⟨different, later⟩ := not_or.1 (mt List.mem_cons.2 absent)
    rw [List.cons_append, splitOn, if_neg (Ne.symm different), inductionHypothesis later]

/-- Splits a text around the first occurrence of a separator. -/
def splitFirst? (separator : Char) : Text → Option (Text × Text)
  | [] => none
  | c :: rest =>
      if c = separator then some ([], rest)
      else (splitFirst? separator rest).map fun (before, after) => (c :: before, after)

/-- Splits a text around the last occurrence of a separator. -/
def splitLast? (separator : Char) : Text → Option (Text × Text)
  | [] => none
  | c :: rest =>
      match splitLast? separator rest with
      | some (before, after) => some (c :: before, after)
      | none => if c = separator then some ([], rest) else none

/-- A text has no last occurrence of a separator exactly if it has none at all. -/
theorem splitLast?_eq_none_iff {separator : Char} {text : Text} :
    splitLast? separator text = none ↔ separator ∉ text := by
  induction text with
  | nil => simp [splitLast?]
  | cons c rest inductionHypothesis =>
    rw [splitLast?]
    cases later : splitLast? separator rest with
    | some parts =>
      have behind : separator ∈ rest := Decidable.byContradiction fun absent => by
        simp [inductionHypothesis.2 absent] at later
      simp [behind]
    | none =>
      have absent := inductionHypothesis.1 later
      by_cases here : c = separator
      · simp [here]
      · simp [here, absent, Ne.symm here]

/-- Splitting around the last occurrence of a separator takes the text apart there, with
no separator behind. -/
theorem splitLast?_eq_some_iff {separator : Char} {text before after : Text} :
    splitLast? separator text = some (before, after) ↔
      text = before ++ separator :: after ∧ separator ∉ after := by
  induction text generalizing before after with
  | nil => simp [splitLast?]
  | cons c rest inductionHypothesis =>
    rw [splitLast?]
    cases later : splitLast? separator rest with
    | some parts =>
      obtain ⟨front, back⟩ := parts
      obtain ⟨rfl, clear⟩ := inductionHypothesis.1 later
      simp only [Option.some.injEq, Prod.mk.injEq]
      constructor
      · rintro ⟨rfl, rfl⟩
        exact ⟨rfl, clear⟩
      · rintro ⟨same, apart⟩
        cases before with
        | nil =>
          obtain ⟨-, rfl⟩ := List.cons.inj same
          simp at apart
        | cons d before =>
          obtain ⟨rfl, sameRest⟩ := List.cons.inj same
          have again := inductionHypothesis.2 ⟨sameRest, apart⟩
          rw [later] at again
          obtain ⟨rfl, rfl⟩ := Prod.mk.inj (Option.some.inj again)
          exact ⟨rfl, rfl⟩
    | none =>
      have absent := splitLast?_eq_none_iff.1 later
      simp only [Option.ite_none_right_eq_some, Option.some.injEq, Prod.mk.injEq]
      constructor
      · rintro ⟨rfl, rfl, rfl⟩
        exact ⟨rfl, absent⟩
      · rintro ⟨same, -⟩
        cases before with
        | nil =>
          obtain ⟨rfl, rfl⟩ := List.cons.inj same
          exact ⟨rfl, rfl, rfl⟩
        | cons d before =>
          obtain ⟨-, rfl⟩ := List.cons.inj same
          simp at absent

/-- Drops the characters at the end of a text that satisfy a test. -/
def dropEndWhile (test : Char → Bool) (text : Text) : Text :=
  (text.reverse.dropWhile test).reverse

/-- Drops the characters at both ends of a text that satisfy a test. -/
def trimWhile (test : Char → Bool) (text : Text) : Text :=
  dropEndWhile test (text.dropWhile test)

/-- Replaces every occurrence of `old`, found from left to right without
overlap. The first argument counts the characters of an occurrence that are
still to be passed over. -/
def replaceFrom (old new : Text) : Nat → Text → Text
  | _, [] => []
  | skipped + 1, _ :: rest => replaceFrom old new skipped rest
  | 0, c :: rest =>
      if old.isPrefixOf (c :: rest) then new ++ replaceFrom old new (old.length - 1) rest
      else c :: replaceFrom old new 0 rest

/-- Replaces every occurrence of a non-empty text, from left to right without
overlap. Inserted text is not searched again. -/
def replaceAll (old new text : Text) : Text := replaceFrom old new 0 text

end Text

end QueryMacros
