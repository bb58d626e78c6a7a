import QueryMacros.Proofs.Settings.Pieces

/-!
# References to the environment

A text with references is replaced piece by piece: a literal and a single dollar sign stay,
and a reference becomes the value of its variable as it is. The first reference to a
variable that is not set is the error. What the text is made of is settled before any
variable is looked up, so no value adds a reference or takes one away.
-/
namespace QueryMacros.Settings

/-! ## What pieces are read as -/

/-- The parts that a piece is read as. -/
def Piece.parts : Piece → List Part
  | .literal text => text.map .character
  | .dollar => [.character '$']
  | .bare name | .braced name => [.reference name]

/-- A piece that can stand in front of a text is read by itself. -/
theorem parts_write {piece : Piece} {rest : Text} (fits : piece.Fits rest) :
    parts (piece.write ++ rest) = piece.parts ++ parts rest := by
  cases piece with
  | literal text =>
    change '$' ∉ text at fits
    rw [Piece.write, Piece.parts]
    induction text with
    | nil => rfl
    | cons c text inductionHypothesis =>
      obtain ⟨other, later⟩ := not_or.1 (mt List.mem_cons.2 fits)
      rw [List.cons_append, parts.eq_4 _ _ (fun _ same _ => other same.symm)
        (fun same => other same.symm), inductionHypothesis later, List.map_cons, List.cons_append]
  | dollar =>
    rw [Piece.write, List.singleton_append, parts.eq_3 _ (not_brace_of_single fits),
      if_pos (no_name_of_single fits)]
    rfl
  | bare name =>
    obtain ⟨named, inside, stops⟩ := fits
    have filled : ¬ name.isEmpty = true := by simpa using named
    rw [Piece.write, List.cons_append, parts.eq_3 _ (not_brace_of_named named inside),
      takeWhile_append_of_stops inside stops, if_neg filled,
      dropWhile_append_of_stops inside stops]
    rfl
  | braced name =>
    have inside := not_closing_of_braced fits
    have stops : ('}' :: rest).head?.any (· != '}') = false := rfl
    rw [Piece.write, List.append_assoc, List.singleton_append, List.cons_append, List.cons_append,
      parts, takeWhile_append_of_stops inside stops, dropWhile_append_of_stops inside stops]
    rfl

/-- Pieces that fit are read one after the other. -/
theorem parts_writeAll {pieces : List Piece} {ending : Text} (fitting : Fitting ending pieces) :
    parts (writeAll pieces ++ ending) = pieces.flatMap Piece.parts ++ parts ending := by
  induction pieces with
  | nil => rfl
  | cons piece pieces inductionHypothesis =>
    obtain ⟨fits, others⟩ := fitting
    rw [writeAll, List.flatMap_cons, List.append_assoc, ← writeAll, parts_write fits,
      inductionHypothesis others, List.flatMap_cons, List.append_assoc]

/-- Braces that are not closed are read as a name up to the end. -/
theorem parts_braces {name : Text} (unclosed : '}' ∉ name) :
    parts ('$' :: '{' :: name) = [.reference name] := by
  have inside := not_closing_of_braced unclosed
  have nothing : ([] : Text).head?.any (· != '}') = false := rfl
  have taken := takeWhile_append_of_stops inside nothing
  have dropped := dropWhile_append_of_stops inside nothing
  rw [List.append_nil] at taken dropped
  rw [parts, taken, dropped, List.drop_nil, parts]

/-! ## What pieces are replaced by -/

/-- The name that a piece refers to, if it is a reference. -/
def Piece.name? : Piece → Option Text
  | .literal _ | .dollar => none
  | .bare name | .braced name => some name

/-- The names that pieces refer to, in order. -/
def references (pieces : List Piece) : List Text := pieces.filterMap Piece.name?

/-- A variable is set. No variable has an empty name. -/
def IsSet (workspace : Workspace Id) (name : Text) : Prop :=
  name ≠ [] ∧ (workspace.environment? name).run.isSome = true

instance (workspace : Workspace Id) (name : Text) : Decidable (IsSet workspace name) :=
  inferInstanceAs (Decidable (_ ∧ _))

/-- The text that takes the place of a piece whose variable is set. -/
def Piece.value (workspace : Workspace Id) : Piece → Text
  | .literal text => text
  | .dollar => ['$']
  | .bare name | .braced name => (workspace.environment? name).run.getD []

section Values

variable {workspace : Workspace Id} {name : Text}

/-- A reference to a variable that is set becomes its value. -/
theorem resolve_of_set (set : IsSet workspace name) :
    (Part.reference name).resolve workspace =
      pure ((workspace.environment? name).run.getD []) := by
  obtain ⟨named, known⟩ := set
  obtain ⟨value, found⟩ := Option.isSome_iff_exists.1 known
  have answered : workspace.environment? name = pure (some value) := found
  have filled : name.isEmpty = false := by simpa using named
  rw [Part.resolve, filled, answered]
  rfl

/-- A reference to a variable that is not set is an error. -/
theorem resolve_of_unset (unset : ¬ IsSet workspace name) :
    (Part.reference name).resolve workspace = throw (.variableNotSet name) := by
  by_cases named : name = []
  · rw [named]
    rfl
  · have filled : name.isEmpty = false := by simpa using named
    have answered : workspace.environment? name = pure none := by
      cases found : (workspace.environment? name).run with
      | none => exact found
      | some value => exact absurd ⟨named, by rw [found]; rfl⟩ unset
    rw [Part.resolve, filled, answered]
    rfl

/-- What the parts of pieces are resolved to, joined. -/
def resolved (workspace : Workspace Id) (pieces : List Piece) : ExceptT Error Id Text := do
  return (← (pieces.flatMap Piece.parts).mapM (Part.resolve workspace)).flatten

/-- Pieces are resolved one after the other. -/
theorem resolved_cons (piece : Piece) (pieces : List Piece) :
    resolved workspace (piece :: pieces) = (do
      let front ← resolved workspace [piece]
      let rest ← resolved workspace pieces
      return front ++ rest) := by
  simp [resolved, List.mapM_append]

/-- A piece that is no reference is kept. -/
theorem resolved_of_no_name {piece : Piece} (plain : piece.name? = none) :
    resolved workspace [piece] = pure (piece.value workspace) := by
  cases piece with
  | literal text =>
    have kept : (text.map Part.character).mapM (Part.resolve workspace) =
        pure (text.map fun c => [c]) := by
      clear plain
      induction text with
      | nil => rfl
      | cons c text inductionHypothesis =>
        rw [List.map_cons, List.mapM_cons, inductionHypothesis]
        rfl
    rw [resolved, List.flatMap_singleton, Piece.parts, kept, pure_bind, ← List.flatMap_def,
      List.flatMap_singleton']
    rfl
  | dollar => rfl
  | bare | braced => cases plain

/-- A reference is resolved to what its name is resolved to. -/
theorem resolved_of_name {piece : Piece} (refers : piece.name? = some name) :
    resolved workspace [piece] = (Part.reference name).resolve workspace := by
  have single : resolved workspace [piece] =
      List.flatten <$> [Part.reference name].mapM (Part.resolve workspace) := by
    cases piece with
    | literal | dollar => cases refers
    | bare | braced =>
      obtain rfl := Option.some.inj refers
      rfl
  simp [single]

/-- Pieces are replaced by the values of their variables, and the first variable that is
not set is the error. The induction is on the pieces, of which only references can
fail. -/
theorem resolved_eq (pieces : List Piece) :
    resolved workspace pieces =
      match (references pieces).find? fun name => ¬ IsSet workspace name with
      | none => pure (pieces.flatMap (Piece.value workspace))
      | some name => throw (.variableNotSet name) := by
  induction pieces with
  | nil => rfl
  | cons piece pieces inductionHypothesis =>
    rw [resolved_cons, inductionHypothesis]
    cases refers : piece.name? with
    | none =>
      have same : references (piece :: pieces) = references pieces :=
        List.filterMap_cons_none refers
      rw [resolved_of_no_name refers, pure_bind, same]
      cases (references pieces).find? fun name => ¬ IsSet workspace name <;> rfl
    | some name =>
      have first : references (piece :: pieces) = name :: references pieces :=
        List.filterMap_cons_some refers
      rw [resolved_of_name refers, first]
      -- If the first variable is not set, the others are not looked at.
      by_cases set : IsSet workspace name
      · have value : (workspace.environment? name).run.getD [] = piece.value workspace := by
          cases piece with
          | literal | dollar => cases refers
          | bare | braced =>
            obtain rfl := Option.some.inj refers
            rfl
        rw [resolve_of_set set, pure_bind, List.find?_cons_of_neg (by simpa using set), value]
        cases (references pieces).find? fun name => ¬ IsSet workspace name <;> rfl
      · rw [resolve_of_unset set, List.find?_cons_of_pos (by simpa using set)]
        rfl

/-- Pieces that fit, with nothing behind them, are expanded one after the other. -/
theorem expand_writeAll {pieces : List Piece} (fitting : Fitting [] pieces) :
    expand workspace (writeAll pieces) = resolved workspace pieces := by
  have read := parts_writeAll fitting
  rw [List.append_nil, parts, List.append_nil] at read
  rw [expand, read, resolved]

/-- Pieces that fit in front of a reference also do when the reference is the last piece. -/
theorem fitting_append_braced {pieces : List Piece}
    (fitting : Fitting ('$' :: '{' :: name) pieces) (unclosed : '}' ∉ name) :
    Fitting [] (pieces ++ [Piece.braced name]) := by
  have head (pieces : List Piece) : (writeAll (pieces ++ [Piece.braced name]) ++ []).head? =
      (writeAll pieces ++ '$' :: '{' :: name).head? := by
    rw [writeAll, List.flatMap_append, List.append_nil, ← writeAll, List.head?_append,
      List.head?_append]
    rfl
  induction pieces with
  | nil => exact ⟨unclosed, trivial⟩
  | cons piece pieces inductionHypothesis =>
    obtain ⟨fits, others⟩ := fitting
    refine ⟨?_, inductionHypothesis others⟩
    cases piece with
    | literal | braced => exact fits
    | dollar => exact (congrArg (Option.any beginsReference) (head pieces)).trans fits
    | bare next =>
      obtain ⟨named, inside, stops⟩ := fits
      exact ⟨named, inside, (congrArg (Option.any isNameCharacter) (head pieces)).trans stops⟩

/-- Braces that are not closed are expanded as if they were closed behind the last
character. -/
theorem expand_writeAll_braces {pieces : List Piece} (fitting : Fitting ('$' :: '{' :: name) pieces)
    (unclosed : '}' ∉ name) :
    expand workspace (writeAll pieces ++ '$' :: '{' :: name) =
      expand workspace (writeAll (pieces ++ [Piece.braced name])) := by
  rw [expand_writeAll (fitting_append_braced fitting unclosed), expand, parts_writeAll fitting,
    parts_braces unclosed, resolved, List.flatMap_append]
  rfl

end Values

/-! ## Braces that are not closed -/

/-- A text that ends inside braces. -/
def Unterminated (text : Text) : Prop :=
  ∃ front name, text = front ++ '$' :: '{' :: name ∧ '}' ∉ name

/-- No piece begins or goes on with braces that are not closed. -/
theorem not_begins_in_piece {piece : Piece} {front part rest name : Text} (fits : piece.Fits rest)
    (written : piece.write = front ++ part) (filled : part ≠ [])
    (unclosed : '}' ∉ name) : part ++ rest ≠ '$' :: '{' :: name := by
  intro begins
  obtain ⟨c, letters, rfl⟩ := List.exists_cons_of_ne_nil filled
  obtain ⟨rfl, behind⟩ := List.cons.inj begins
  cases piece with
  | literal text =>
    have noDollar : '$' ∉ text := fits
    rw [show text = front ++ '$' :: letters from written] at noDollar
    simp at noDollar
  | dollar =>
    cases front with
    | nil =>
      obtain ⟨-, rfl⟩ := List.cons.inj written
      exact not_brace_of_single fits name behind
    | cons d front =>
      obtain ⟨-, more⟩ := List.cons.inj written
      simp at more
  | bare next =>
    obtain ⟨named, inside, stops⟩ := fits
    cases front with
    | nil =>
      obtain ⟨-, rfl⟩ := List.cons.inj written
      exact not_brace_of_named named inside name behind
    | cons d front =>
      obtain ⟨-, rfl⟩ := List.cons.inj written
      have letter := inside '$' (by simp)
      exact absurd letter (by decide)
  | braced next =>
    -- What is written of the piece ends with the closing brace.
    have closing : '}' ∈ '$' :: letters := by
      have last := congrArg List.getLast? written
      rw [Piece.write, List.getLast?_concat, List.getLast?_append, List.getLast?_cons,
        Option.some_or, ← List.getLast?_cons] at last
      exact List.mem_of_getLast? last.symm
    have member : '}' ∈ '$' :: '{' :: name := begins ▸ List.mem_append_left rest closing
    simp [unclosed] at member

/-- Pieces alone do not end inside braces. -/
theorem not_unterminated_writeAll {pieces : List Piece} (fitting : Fitting [] pieces) :
    ¬ Unterminated (writeAll pieces) := by
  rintro ⟨front, name, split, unclosed⟩
  induction pieces generalizing front with
  | nil => simp [writeAll] at split
  | cons piece pieces inductionHypothesis =>
    obtain ⟨fits, others⟩ := fitting
    rw [writeAll, List.flatMap_cons, ← writeAll] at split
    rw [List.append_nil] at fits
    rcases List.append_eq_append_iff.1 split with ⟨part, -, rest⟩ | ⟨part, written, rest⟩
    · exact inductionHypothesis others part rest
    · by_cases filled : part = []
      · rw [filled, List.nil_append] at rest
        exact inductionHypothesis others [] rest.symm
      · exact not_begins_in_piece fits written filled unclosed rest.symm

/-! ## Whole texts -/

/-- The first name of a list that is not set. -/
theorem find?_unset_eq_some_iff {workspace : Workspace Id} {names : List Text} {name : Text} :
    (names.find? fun name => ¬ IsSet workspace name) = some name ↔
      ∃ before after, names = before ++ name :: after ∧
        (∀ earlier ∈ before, IsSet workspace earlier) ∧ ¬ IsSet workspace name := by
  rw [List.find?_eq_some_iff_append]
  simp only [decide_eq_true_eq, Bool.not_eq_true', decide_eq_false_iff_not, Decidable.not_not]
  constructor
  · rintro ⟨unset, before, after, split, set⟩
    exact ⟨before, after, split, set, unset⟩
  · rintro ⟨before, after, split, set, unset⟩
    exact ⟨unset, before, after, split, set⟩

section Whole

variable {workspace : Workspace Id} {pieces : List Piece} {text : Text}

/-- Pieces whose variables are set are replaced by values. -/
theorem resolved_of_set (set : ∀ name ∈ references pieces, IsSet workspace name) :
    resolved workspace pieces = pure (pieces.flatMap (Piece.value workspace)) := by
  have none : (references pieces).find? (fun name => ¬ IsSet workspace name) = none :=
    List.find?_eq_none.2 fun name member => by simpa using set name member
  rw [resolved_eq, none]

/-- Pieces are not replaced exactly if a variable is not set, and the first of these is the
error. -/
theorem resolved_eq_throw_iff {error : Error} :
    resolved workspace pieces = throw error ↔
      ∃ before name after, references pieces = before ++ name :: after ∧
        (∀ earlier ∈ before, IsSet workspace earlier) ∧ ¬ IsSet workspace name ∧
        error = .variableNotSet name := by
  rw [resolved_eq]
  cases unset : (references pieces).find? fun name => ¬ IsSet workspace name with
  | none =>
    constructor
    · intro failed
      cases failed
    · rintro ⟨before, name, after, split, set, missing, -⟩
      rw [find?_unset_eq_some_iff.2 ⟨before, after, split, set, missing⟩] at unset
      cases unset
  | some first =>
    constructor
    · intro failed
      obtain ⟨before, after, split, set, missing⟩ := find?_unset_eq_some_iff.1 unset
      exact ⟨before, first, after, split, set, missing, (Except.error.inj failed).symm⟩
    · rintro ⟨before, name, after, split, set, missing, rfl⟩
      rw [find?_unset_eq_some_iff.2 ⟨before, after, split, set, missing⟩] at unset
      rw [Option.some.inj unset]

/-- A text that does not end inside braces is made of pieces in one way. -/
theorem existsUnique_pieces (terminated : ¬ Unterminated text) :
    ∃! pieces, Fitting [] pieces ∧ Merged pieces ∧ writeAll pieces = text := by
  obtain ⟨⟨pieces, ending⟩, ⟨⟨fitting, merged, ended⟩, same⟩, unique⟩ :=
    Decomposition.existsUnique_proper text
  cases ended with
  | nothing =>
    rw [Decomposition.write, List.append_nil] at same
    refine ⟨pieces, ⟨fitting, merged, same⟩, ?_⟩
    rintro others ⟨othersFitting, othersMerged, othersSame⟩
    have found := unique ⟨others, []⟩ ⟨⟨othersFitting, othersMerged, .nothing⟩, by
      rw [Decomposition.write, List.append_nil, othersSame]⟩
    exact congrArg Decomposition.pieces found
  | braces unclosed => exact absurd ⟨_, _, same.symm, unclosed⟩ terminated

/-- A text that ends inside braces is made of pieces and of the braces behind them. -/
theorem exists_pieces_of_unterminated (unterminated : Unterminated text) :
    ∃ pieces name, text = writeAll pieces ++ '$' :: '{' :: name ∧
      Fitting ('$' :: '{' :: name) pieces ∧ '}' ∉ name := by
  obtain ⟨⟨pieces, ending⟩, ⟨⟨fitting, -, ended⟩, same⟩, -⟩ :=
    Decomposition.existsUnique_proper text
  cases ended with
  | nothing =>
    rw [Decomposition.write, List.append_nil] at same
    exact absurd (same ▸ unterminated) (not_unterminated_writeAll fitting)
  | braces unclosed => exact ⟨pieces, _, same.symm, fitting, unclosed⟩

end Whole

/-- An expansion has one reading. Pieces that fit are replaced one after the other, each
reference by the value of its variable as it is, and the expansion fails exactly if a
variable is not set, with the first one of these. Every text that does not end inside
braces is made of such pieces in one way only, if neighbouring literals are one; and in a
text that does, all of what is left is the name of the last reference. -/
theorem expand_pieces (workspace : Workspace Id) :
    (∀ pieces, Fitting [] pieces →
      ((∀ name ∈ references pieces, IsSet workspace name) →
        expand workspace (writeAll pieces) = pure (pieces.flatMap (Piece.value workspace))) ∧
      ∀ error, expand workspace (writeAll pieces) = throw error ↔
        ∃ before name after, references pieces = before ++ name :: after ∧
          (∀ earlier ∈ before, IsSet workspace earlier) ∧ ¬ IsSet workspace name ∧
          error = .variableNotSet name) ∧
    (∀ text, ¬ Unterminated text →
      ∃! pieces, Fitting [] pieces ∧ Merged pieces ∧ writeAll pieces = text) ∧
    ∀ text, Unterminated text → ∃ pieces name,
      text = writeAll pieces ++ '$' :: '{' :: name ∧ Fitting [] (pieces ++ [.braced name]) ∧
        expand workspace text = expand workspace (writeAll (pieces ++ [.braced name])) := by
  refine ⟨fun pieces fitting => ?_, fun text => existsUnique_pieces, fun text unterminated => ?_⟩
  · rw [expand_writeAll fitting]
    exact ⟨resolved_of_set, fun error => resolved_eq_throw_iff⟩
  · obtain ⟨pieces, name, rfl, fitting, unclosed⟩ := exists_pieces_of_unterminated unterminated
    exact ⟨pieces, name, rfl, fitting_append_braced fitting unclosed,
      expand_writeAll_braces fitting unclosed⟩

/-- An environment in which the value of a variable looks like a reference. -/
def lookalike : Workspace Id where
  fetch _ := pure (.error .missing)
  environment? name := pure (if name = "A".toList then some "$B".toList else none)
  input := pure (.ok [])

/-- References next to each other and next to a single dollar sign, and one that has no
name. -/
theorem expand_pieces_lookalike :
    (Fitting [] [.literal "x ".toList, .dollar, .bare "A".toList, .braced "A".toList] ∧
        expand lookalike "x $$A${A}".toList = pure "x $$B$B".toList) ∧
      (Fitting [] [.braced [], .bare "A".toList, .braced "C".toList] ∧
        expand lookalike "${}$A${C}".toList = throw (.variableNotSet [])) := by
  have fitting :
      Fitting [] [.literal "x ".toList, .dollar, .bare "A".toList, .braced "A".toList] := by
    decide
  have unnamed : Fitting [] [.braced [], .bare "A".toList, .braced "C".toList] := by decide
  have values := ((expand_pieces lookalike).1 _ fitting).1 (by decide)
  have missing := (((expand_pieces lookalike).1 _ unnamed).2 (.variableNotSet [])).2
    ⟨[], [], _, rfl, by decide, by decide, rfl⟩
  exact ⟨⟨fitting, values⟩, unnamed, missing⟩

end QueryMacros.Settings
