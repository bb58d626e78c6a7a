import QueryMacros.Macro.Arguments

/-!
# Occurrences of a name

A name occurs where its characters stand and a word begins or ends right behind
them, so no name is found inside a longer one that it starts. Names are compared
exactly; nothing in a name has a special meaning. An occurrence takes in the
argument list that follows the name at once, if there is one.

Searching goes on behind the occurrence found last. The text in front of the
search is looked at in one case only: an empty name occurs at word edges, and an
edge depends on both of its neighbours.
-/
namespace QueryMacros.Macro

/-- The text behind a name, if the name occurs at the front of `text`. The
character before `text` is given because an empty name has no last character of
its own. -/
def nameAt? (name : Text) (previous : Option Char) (text : Text) : Option Text :=
  match Text.behind? name text with
  | some rest =>
      if Text.wordEdge (name.getLast? <|> previous) rest.head? then some rest else none
  | none => none

/-- The first place where a name occurs: the text in front of it and the text
behind the name. -/
def locate? (name : Text) (previous : Option Char) : Text → Option (Text × Text)
  | [] => (nameAt? name previous []).map fun rest => ([], rest)
  | c :: text =>
      match nameAt? name previous (c :: text) with
      | some rest => some ([], rest)
      | none => (locate? name (some c) text).map fun (before, rest) => (c :: before, rest)

/-- A name with its arguments, found in a text: what stands in front of it, its
arguments as they are written, and what stands behind it. `source` is the exact
text from the name to the end of the arguments. -/
structure Occurrence where
  before : Text
  arguments : List Text
  source : Text
  rest : Text
deriving DecidableEq, Repr

/-- The first occurrence of a name, with the arguments behind it. -/
def occurrence? (name : Text) (previous : Option Char) (text : Text) : Option Occurrence :=
  (locate? name previous text).map fun (before, behind) =>
    let (arguments, rest) := argumentsOf behind
    { before, arguments, source := name ++ Text.upTo behind rest, rest }

/-- A place in a text. An applier works at a place: what stands before it is
settled, and what stands after it is still to be searched. -/
structure Cursor where
  before : Text
  after : Text
deriving DecidableEq, Repr

namespace Cursor

/-- The place in front of a text. -/
def start (text : Text) : Cursor := ⟨[], text⟩

/-- The whole text that a place belongs to. -/
def text (cursor : Cursor) : Text := cursor.before ++ cursor.after

/-- The byte offset of a place. -/
def offset (cursor : Cursor) : Nat := Text.utf8Length cursor.before

/-- The place at a byte offset of a text, if there is one. -/
def at? (text : Text) (offset : Nat) : Option Cursor :=
  (Text.cutAt? text offset).map fun (before, after) => ⟨before, after⟩

/-- The first place of a text at or behind a byte offset, if there is one. -/
def atOrBehind? (text : Text) (offset : Nat) : Option Cursor :=
  (Text.cutAtOrBehind? text offset).map fun (before, after) => ⟨before, after⟩

end Cursor

/-- The first occurrence of a name at or behind a place. -/
def next? (name : Text) (cursor : Cursor) : Option Occurrence :=
  occurrence? name cursor.before.getLast? cursor.after

/-- A name that occurs at the front of a text is the front of that text. -/
theorem nameAt?_eq_append {name text rest : Text} {previous : Option Char}
    (found : nameAt? name previous text = some rest) : text = name ++ rest := by
  unfold nameAt? at found
  split at found
  · next rest' isPrefix =>
    split at found
    · obtain rfl := Option.some.inj found
      exact Text.behind?_eq_some_iff.1 isPrefix
    · simp at found
  · simp at found

/-- A located name splits the text into the part in front of it, the name, and
the part behind it. -/
theorem locate?_eq_append {name text before rest : Text} {previous : Option Char}
    (found : locate? name previous text = some (before, rest)) :
    text = before ++ name ++ rest := by
  fun_induction locate? name previous text generalizing before with
  | case1 =>
    obtain ⟨behind, located, same⟩ := Option.map_eq_some_iff.1 found
    obtain ⟨rfl, rfl⟩ := Prod.mk.inj same
    simpa using nameAt?_eq_append located
  | case2 _ _ _ _ located =>
    obtain ⟨rfl, rfl⟩ := Prod.mk.inj (Option.some.inj found)
    simpa using nameAt?_eq_append located
  | case3 _ _ _ _ inductionHypothesis =>
    obtain ⟨⟨front, behind⟩, located, same⟩ := Option.map_eq_some_iff.1 found
    obtain ⟨rfl, rfl⟩ := Prod.mk.inj same
    simp [inductionHypothesis located]

/-- An occurrence splits the text it was found in. -/
theorem occurrence?_text {name text : Text} {previous : Option Char} {occurrence : Occurrence}
    (found : occurrence? name previous text = some occurrence) :
    text = occurrence.before ++ occurrence.source ++ occurrence.rest := by
  obtain ⟨⟨before, behind⟩, located, rfl⟩ := Option.map_eq_some_iff.1 found
  obtain ⟨consumed, split⟩ := (argumentsOf_bounds behind).1
  have source : Text.upTo behind (argumentsOf behind).2 = consumed := by
    conv => lhs; arg 1; rw [← split]
    exact Text.upTo_append _ _
  simp only [source, locate?_eq_append located, List.append_assoc, split]

/-- Behind an occurrence of a non-empty name less text is left. -/
theorem occurrence?_rest_length {name text : Text} {previous : Option Char}
    {occurrence : Occurrence} (named : name ≠ [])
    (found : occurrence? name previous text = some occurrence) :
    occurrence.rest.length < text.length := by
  obtain ⟨⟨before, behind⟩, located, rfl⟩ := Option.map_eq_some_iff.1 found
  have shorter := (argumentsOf_bounds behind).1.length_le
  have positive := List.length_pos_iff.2 named
  rw [locate?_eq_append located]
  simp only [List.length_append]
  omega

/-- The arguments of an occurrence are shorter than the text it was found in. -/
theorem occurrence?_argument_length {name text argument : Text} {previous : Option Char}
    {occurrence : Occurrence} (found : occurrence? name previous text = some occurrence)
    (member : argument ∈ occurrence.arguments) : argument.length < text.length := by
  obtain ⟨⟨before, behind⟩, located, rfl⟩ := Option.map_eq_some_iff.1 found
  have shorter := (argumentsOf_bounds behind).2 argument member
  rw [locate?_eq_append located]
  simp only [List.length_append]
  omega

end QueryMacros.Macro
