import Mathlib.Logic.ExistsUnique
import QueryMacros.Proofs.Text.Trim
import QueryMacros.Settings.Environment

/-!
# Texts as pieces

A text with references is a sequence of pieces: literal texts, dollar signs that stand for
themselves, and names of variables behind a dollar sign or between braces. Each piece can be
told from the characters that it begins with and from the first one behind it, so a text is
such a sequence in one way only. A text can end inside braces; then no piece begins there.
-/
namespace QueryMacros.Settings

/-- A piece of a text with references, as it is written. -/
inductive Piece where
  /-- A text that stands for itself. -/
  | literal (text : Text)
  /-- A dollar sign that stands for itself. -/
  | dollar
  /-- A reference without braces. -/
  | bare (name : Text)
  | braced (name : Text)
deriving DecidableEq, Repr

/-- The text of a piece. -/
def Piece.write : Piece → Text
  | .literal text => text
  | .dollar => ['$']
  | .bare name => '$' :: name
  | .braced name => '$' :: '{' :: name ++ ['}']

/-- The text of pieces in order. -/
def writeAll (pieces : List Piece) : Text := pieces.flatMap Piece.write

/-- Whether a character right behind a dollar sign makes a reference of it. -/
def beginsReference (c : Char) : Bool := isNameCharacter c || c == '{'

/-- A piece can stand in front of a text. A literal has no dollar sign, and a name between
braces no closing brace. A name without braces is not empty, and no character behind it
would go on with it; nor would one behind a single dollar sign begin a reference. -/
def Piece.Fits (rest : Text) : Piece → Prop
  | .literal text => '$' ∉ text
  | .dollar => rest.head?.any beginsReference = false
  | .bare name => name ≠ [] ∧ (∀ c ∈ name, isNameCharacter c = true) ∧
      rest.head?.any isNameCharacter = false
  | .braced name => '}' ∉ name

instance (rest : Text) : (piece : Piece) → Decidable (piece.Fits rest)
  | .literal text => inferInstanceAs (Decidable ('$' ∉ text))
  | .dollar => inferInstanceAs (Decidable (_ = _))
  | .bare name =>
      have : Decidable (∀ c ∈ name, isNameCharacter c = true) :=
        decidable_of_iff (name.all isNameCharacter = true) List.all_eq_true
      inferInstanceAs (Decidable (_ ∧ _ ∧ _))
  | .braced name => inferInstanceAs (Decidable ('}' ∉ name))

/-! ## What the characters behind a dollar sign tell -/

section Behind

variable {name rest : Text}

/-- A dollar sign that stands for itself opens no braces. -/
theorem not_brace_of_single (single : rest.head?.any beginsReference = false) :
    ∀ inner, rest ≠ '{' :: inner := by
  rintro inner rfl
  cases single

/-- A dollar sign that stands for itself has no name behind it. -/
theorem no_name_of_single (single : rest.head?.any beginsReference = false) :
    (rest.takeWhile isNameCharacter).isEmpty = true := by
  cases rest with
  | nil => rfl
  | cons c rest =>
    have outside : ¬ isNameCharacter c = true := by
      simp only [List.head?_cons, Option.any_some, beginsReference, Bool.or_eq_false_iff] at single
      simp [single.1]
    rw [List.takeWhile_cons_of_neg outside, List.isEmpty_nil]

/-- A name without braces does not begin with one. -/
theorem not_brace_of_named (named : name ≠ []) (inside : ∀ c ∈ name, isNameCharacter c = true) :
    ∀ inner, name ++ rest ≠ '{' :: inner := by
  intro inner same
  obtain ⟨c, letters, rfl⟩ := List.exists_cons_of_ne_nil named
  obtain ⟨rfl, -⟩ := List.cons.inj same
  exact absurd (inside '{' List.mem_cons_self) (by decide)

/-- No character of a name between braces closes them. -/
theorem not_closing_of_braced (closed : '}' ∉ name) : ∀ c ∈ name, (c != '}') = true :=
  fun _ member => bne_iff_ne.2 fun same => closed (same ▸ member)

end Behind

/-! ## Pieces in a row -/

/-- Each piece can stand where it stands, with a text behind the last one. -/
def Fitting (ending : Text) : List Piece → Prop
  | [] => True
  | piece :: pieces => piece.Fits (writeAll pieces ++ ending) ∧ Fitting ending pieces

instance (ending : Text) : (pieces : List Piece) → Decidable (Fitting ending pieces)
  | [] => isTrue trivial
  | piece :: pieces =>
      have : Decidable (Fitting ending pieces) := instDecidableFitting ending pieces
      inferInstanceAs (Decidable (piece.Fits (writeAll pieces ++ ending) ∧ Fitting ending pieces))

/-- No literal is empty, and none follows another. -/
def Merged : List Piece → Prop
  | [] => True
  | .literal text :: pieces =>
      text ≠ [] ∧ (∀ other, pieces.head? ≠ some (.literal other)) ∧ Merged pieces
  | _ :: pieces => Merged pieces

/-- What can stand behind the last piece: nothing, or braces that are not closed. -/
inductive IsEnding : Text → Prop
  | nothing : IsEnding []
  | braces {name : Text} (unclosed : '}' ∉ name) : IsEnding ('$' :: '{' :: name)

/-- Pieces, and what stands behind the last one. -/
structure Decomposition where
  pieces : List Piece
  ending : Text

namespace Decomposition

/-- The text that is decomposed. -/
def write (decomposition : Decomposition) : Text :=
  writeAll decomposition.pieces ++ decomposition.ending

/-- The pieces fit, neighbouring literals are one, and behind the last piece there is
nothing but braces that are not closed. -/
structure Proper (decomposition : Decomposition) : Prop where
  fitting : Fitting decomposition.ending decomposition.pieces
  merged : Merged decomposition.pieces
  ended : IsEnding decomposition.ending

/-- Puts a piece in front. -/
def cons (piece : Piece) (decomposition : Decomposition) : Decomposition :=
  { decomposition with pieces := piece :: decomposition.pieces }

/-- Takes a text apart from the front. -/
def ofText : Text → Decomposition
  | [] => ⟨[], []⟩
  | '$' :: '{' :: rest =>
      if '}' ∈ rest then
        (ofText ((rest.dropWhile (· != '}')).drop 1)).cons (.braced (rest.takeWhile (· != '}')))
      else ⟨[], '$' :: '{' :: rest⟩
  | '$' :: rest =>
      if (rest.takeWhile isNameCharacter).isEmpty then (ofText rest).cons .dollar
      else (ofText (rest.dropWhile isNameCharacter)).cons (.bare (rest.takeWhile isNameCharacter))
  | c :: rest =>
      (ofText (rest.dropWhile (· != '$'))).cons (.literal (c :: rest.takeWhile (· != '$')))
termination_by text => text.length
decreasing_by
  all_goals simp only [List.length_cons, List.length_drop]
  · have := (List.dropWhile_suffix (l := rest) (· != '}')).length_le
    omega
  · omega
  · have := (List.dropWhile_suffix (l := rest) isNameCharacter).length_le
    omega
  · have := (List.dropWhile_suffix (l := rest) (· != '$')).length_le
    omega

/-- A piece can stand in front of a decomposed text and is not to be merged with it. -/
structure Precedes (piece : Piece) (decomposition : Decomposition) : Prop where
  fits : piece.Fits decomposition.write
  apart : ∀ text, piece = .literal text → text ≠ [] ∧
    ∀ other, decomposition.pieces.head? ≠ some (.literal other)

/-- A piece put in front is written in front. -/
theorem write_cons (piece : Piece) (decomposition : Decomposition) :
    (decomposition.cons piece).write = piece.write ++ decomposition.write := by
  rw [write, write, cons, writeAll, List.flatMap_cons, List.append_assoc]
  rfl

/-- A decomposition with a piece in front is proper if it was so before and the piece
may precede it. -/
theorem proper_cons_iff {piece : Piece} {decomposition : Decomposition} :
    (decomposition.cons piece).Proper ↔ Precedes piece decomposition ∧ decomposition.Proper := by
  constructor
  · rintro ⟨⟨fits, fitting⟩, merged, ended⟩
    cases piece with
    | literal text =>
      obtain ⟨filled, apart, merged⟩ := merged
      exact ⟨⟨fits, fun _ same => Piece.literal.inj same ▸ ⟨filled, apart⟩⟩, fitting, merged, ended⟩
    | dollar | bare | braced => exact ⟨⟨fits, nofun⟩, fitting, merged, ended⟩
  · rintro ⟨⟨fits, apart⟩, fitting, merged, ended⟩
    refine ⟨⟨fits, fitting⟩, ?_, ended⟩
    cases piece with
    | literal text => exact ⟨(apart text rfl).1, (apart text rfl).2, merged⟩
    | dollar | bare | braced => exact merged

/-- A proper decomposition begins with a literal exactly if its text does not begin with a
dollar sign. -/
theorem Proper.head?_write {decomposition : Decomposition} (proper : decomposition.Proper) :
    decomposition.write.head?.any (· != '$') = true ↔
      ∃ text, decomposition.pieces.head? = some (.literal text) := by
  obtain ⟨pieces, ending⟩ := decomposition
  obtain ⟨fitting, merged, ended⟩ := proper
  cases pieces with
  | nil =>
    cases ended with
    | nothing | braces => simp [write, writeAll]
  | cons piece pieces =>
    cases piece with
    | literal text =>
      obtain ⟨c, rest, rfl⟩ := List.exists_cons_of_ne_nil merged.1
      have noDollar : '$' ∉ c :: rest := fitting.1
      have different : c ≠ '$' := Ne.symm (List.ne_of_not_mem_cons noDollar)
      simp [write, writeAll, Piece.write, different]
    | dollar | bare | braced => simp [write, writeAll, Piece.write]

/-- A text that begins with anything but a dollar sign begins with a literal, which ends in
front of the next dollar sign. -/
theorem ofText_literal {c : Char} (other : c ≠ '$') (rest : Text) :
    ofText (c :: rest) =
      (ofText (rest.dropWhile (· != '$'))).cons (.literal (c :: rest.takeWhile (· != '$'))) :=
  ofText.eq_4 c rest (fun _ same _ => other same) other

/-- A name between braces is taken off as one piece. -/
theorem ofText_braced {name : Text} (closed : '}' ∉ name) (rest : Text) :
    ofText ('$' :: '{' :: (name ++ '}' :: rest)) = (ofText rest).cons (.braced name) := by
  have inside := not_closing_of_braced closed
  have stops : ('}' :: rest).head?.any (· != '}') = false := rfl
  rw [ofText, if_pos (by simp), takeWhile_append_of_stops inside stops,
    dropWhile_append_of_stops inside stops, List.drop_succ_cons, List.drop_zero]

/-- A dollar sign that stands for itself is taken off as one piece. -/
theorem ofText_dollar {rest : Text} (single : rest.head?.any beginsReference = false) :
    ofText ('$' :: rest) = (ofText rest).cons .dollar := by
  rw [ofText.eq_3 rest (not_brace_of_single single), if_pos (no_name_of_single single)]

/-- A name without braces is taken off as one piece, as long as it goes on. -/
theorem ofText_bare {name rest : Text} (named : name ≠ [])
    (inside : ∀ c ∈ name, isNameCharacter c = true)
    (stops : rest.head?.any isNameCharacter = false) :
    ofText ('$' :: (name ++ rest)) = (ofText rest).cons (.bare name) := by
  have filled : ¬ name.isEmpty = true := by simpa using named
  rw [ofText.eq_3 _ (not_brace_of_named named inside), takeWhile_append_of_stops inside stops,
    if_neg filled, dropWhile_append_of_stops inside stops]

/-- Taking a text apart finds the pieces of any proper decomposition. The induction is on
the pieces. What makes a decomposition proper is what keeps each piece from being read
further. -/
theorem ofText_write {decomposition : Decomposition} (proper : decomposition.Proper) :
    ofText decomposition.write = decomposition := by
  obtain ⟨pieces, ending⟩ := decomposition
  induction pieces with
  | nil =>
    cases proper.ended with
    | nothing => rw [write, writeAll, List.flatMap_nil, List.append_nil, ofText]
    | braces unclosed => rw [write, writeAll, List.flatMap_nil, List.nil_append, ofText,
        if_neg unclosed]
  | cons piece pieces inductionHypothesis =>
    change (cons piece ⟨pieces, ending⟩).Proper at proper
    change ofText (cons piece ⟨pieces, ending⟩).write = cons piece ⟨pieces, ending⟩
    obtain ⟨⟨fits, apart⟩, rest⟩ := proper_cons_iff.1 proper
    have found := inductionHypothesis rest
    rw [write_cons]
    cases piece with
    | literal text =>
      obtain ⟨filled, noLiteral⟩ := apart text rfl
      obtain ⟨c, letters, rfl⟩ := List.exists_cons_of_ne_nil filled
      obtain ⟨other, inside⟩ := not_or.1 (mt List.mem_cons.2 fits)
      have letters_inside : ∀ d ∈ letters, (d != '$') = true := fun d member =>
        bne_iff_ne.2 fun same => inside (same ▸ member)
      have stops := Bool.eq_false_iff.2 (mt rest.head?_write.1 (not_exists.2 noLiteral))
      rw [Piece.write, List.cons_append, ofText_literal (Ne.symm other),
        takeWhile_append_of_stops letters_inside stops,
        dropWhile_append_of_stops letters_inside stops, found]
    | dollar => exact (ofText_dollar fits).trans (congrArg _ found)
    | bare name =>
      obtain ⟨named, inside, stops⟩ := fits
      exact (ofText_bare named inside stops).trans (congrArg _ found)
    | braced name =>
      rw [Piece.write, List.append_assoc, List.singleton_append, List.cons_append,
        List.cons_append, ofText_braced fits, found]

/-- Taking a text apart gives a proper decomposition of it. The cases are those of taking
apart: what is taken off may stand in front of what is left. -/
theorem ofText_spec (text : Text) : (ofText text).Proper ∧ (ofText text).write = text := by
  fun_induction ofText text with
  | case1 => exact ⟨⟨trivial, trivial, .nothing⟩, rfl⟩
  -- A name between braces.
  | case2 rest closed inductionHypothesis =>
    obtain ⟨proper, same⟩ := inductionHypothesis
    refine ⟨proper_cons_iff.2 ⟨⟨not_mem_takeWhile_ne '}' rest, nofun⟩, proper⟩, ?_⟩
    rw [write_cons, same, Piece.write, List.append_assoc, List.singleton_append,
      ← dropWhile_ne_eq_cons closed, List.cons_append, List.cons_append,
      List.takeWhile_append_dropWhile]
  -- Braces that are not closed, which end the pieces.
  | case3 rest closed => exact ⟨⟨trivial, trivial, .braces closed⟩, rfl⟩
  -- A dollar sign that stands for itself.
  | case4 rest noBrace noName inductionHypothesis =>
    obtain ⟨proper, same⟩ := inductionHypothesis
    refine ⟨proper_cons_iff.2 ⟨⟨?_, nofun⟩, proper⟩, ?_⟩
    · rw [same]
      cases rest with
      | nil => rfl
      | cons c rest =>
        have notBrace : c ≠ '{' := fun here => noBrace rest (by rw [here])
        have outside : isNameCharacter c = false := by
          refine Bool.eq_false_iff.2 fun inside => ?_
          rw [List.takeWhile_cons_of_pos inside] at noName
          cases noName
        simp [Piece.Fits, beginsReference, outside, notBrace]
    · rw [write_cons, same]
      rfl
  -- A name without braces.
  | case5 rest noBrace named inductionHypothesis =>
    obtain ⟨proper, same⟩ := inductionHypothesis
    refine ⟨proper_cons_iff.2 ⟨⟨⟨?_, ?_, ?_⟩, nofun⟩, proper⟩, ?_⟩
    · simpa using named
    · exact fun c member => List.all_eq_true.1 List.all_takeWhile c member
    · rw [same]
      exact stops_dropWhile _ _
    · rw [write_cons, same, Piece.write, List.cons_append, List.takeWhile_append_dropWhile]
  -- A literal up to the next dollar sign, which no literal follows.
  | case6 c rest _ other inductionHypothesis =>
    obtain ⟨proper, same⟩ := inductionHypothesis
    refine ⟨proper_cons_iff.2 ⟨⟨?_, ?_⟩, proper⟩, ?_⟩
    · intro member
      rcases List.mem_cons.1 member with here | later
      · exact other here.symm
      · exact not_mem_takeWhile_ne '$' rest later
    · rintro text letters
      obtain rfl := Piece.literal.inj letters
      refine ⟨List.cons_ne_nil _ _, fun next begins => ?_⟩
      have stops := stops_dropWhile (· != '$') rest
      rw [← same, proper.head?_write.2 ⟨next, begins⟩] at stops
      cases stops
    · rw [write_cons, same, Piece.write, List.cons_append, List.takeWhile_append_dropWhile]

/-- Every text has exactly one proper decomposition. -/
theorem existsUnique_proper (text : Text) :
    ∃! decomposition : Decomposition, decomposition.Proper ∧ decomposition.write = text := by
  refine ⟨ofText text, ofText_spec text, ?_⟩
  rintro decomposition ⟨proper, rfl⟩
  exact (ofText_write proper).symm

end Decomposition

end QueryMacros.Settings
