import QueryMacros.Proofs.Macro.Grammar

/-!
# Reading argument lists

An argument list is written as its arguments with commas between them and parentheses
around them. Each argument is well formed, and there is one at least; a list whose one
argument is blank holds none. Reading accepts exactly the lists that can be written in
this way, at every place of a text and whatever stands around them: what is written is
read back as it was, blanks included, and where nothing is read there is no list.
-/
namespace QueryMacros.Macro

/-- Arguments as a list: between parentheses, with commas between them. -/
def listing (arguments : List Text) : Text := '(' :: [','].intercalate arguments ++ [')']

/-- Arguments that can be written as a list. Without any, there is still the empty
text between the parentheses. -/
structure Listable (arguments : List Text) : Prop where
  nonempty : arguments ≠ []
  wellFormed : ∀ argument ∈ arguments, WellFormed argument

/-- Nothing but blanks between the parentheses. -/
def Vacant (arguments : List Text) : Prop :=
  ∃ blank : Text, blank.all Text.isBlank = true ∧ arguments = [blank]

/-! ## Scanning -/

/-- A scan inside an argument stops only outside quotes with nothing open, at the end
of the argument or of the list. -/
theorem advance_eq_none {mode : Mode} {depth : Nat} {c : Char}
    (stopped : advance (mode, depth) c = none) :
    mode = .plain ∧ depth = 0 ∧ (c = ')' ∨ c = ',') := by
  cases mode with
  | escaped quote => simp [advance] at stopped
  | quoted quote =>
    simp only [advance] at stopped
    split at stopped
    · simp at stopped
    · split at stopped <;> simp at stopped
  | plain =>
    simp only [advance] at stopped
    refine ⟨rfl, ?_⟩
    cases depth <;> grind

/-- What a scan takes apart is well formed: the first argument from where the scan
stands, and every later one from its start. -/
theorem scan_wellFormed {mode : Mode} {depth : Nat} {text : Text} {scanned : Scanned}
    (read : scan mode depth text = some scanned) :
    walk (mode, depth) scanned.first = some outermost ∧
      ∀ other ∈ scanned.others, WellFormed other := by
  induction text generalizing mode depth scanned with
  | nil => simp [scan] at read
  | cons c rest inductionHypothesis =>
    cases stepped : advance (mode, depth) c with
    | some next =>
      -- The character belongs to the first argument, so the walk over it begins with it.
      rw [scan_cons rest stepped] at read
      obtain ⟨inner, innerRead, rfl⟩ := Option.map_eq_some_iff.1 read
      obtain ⟨walked, others⟩ := inductionHypothesis innerRead
      refine ⟨?_, others⟩
      change (advance (mode, depth) c).bind (walk · inner.first) = some outermost
      rw [stepped]
      exact walked
    | none =>
      obtain ⟨rfl, rfl, closing | comma⟩ := advance_eq_none stepped
      · subst closing
        have ended : scan .plain 0 (')' :: rest) = some ⟨[], [], rest⟩ := by simp [scan, isQuote]
        obtain rfl := Option.some.inj (ended.symm.trans read)
        exact ⟨rfl, by simp⟩
      · subst comma
        have parted : scan .plain 0 (',' :: rest) = (scan .plain 0 rest).map .split := by
          simp [scan, isQuote]
        rw [parted] at read
        obtain ⟨inner, innerRead, rfl⟩ := Option.map_eq_some_iff.1 read
        obtain ⟨walked, others⟩ := inductionHypothesis innerRead
        exact ⟨rfl, List.forall_mem_cons.2 ⟨walked, others⟩⟩

/-! ## Lists at the front of a text -/

/-- The arguments that a list holds: all of them, unless it is vacant. -/
theorem argumentList?_listing {arguments : List Text} (listable : Listable arguments)
    (rest : Text) :
    (¬ Vacant arguments → argumentList? (listing arguments ++ rest) = some (arguments, rest)) ∧
      (Vacant arguments → argumentList? (listing arguments ++ rest) = some ([], rest)) := by
  obtain ⟨nonempty, wellFormed⟩ := listable
  cases arguments with
  | nil => exact absurd rfl nonempty
  | cons first others =>
    obtain ⟨firstWellFormed, othersWellFormed⟩ := List.forall_mem_cons.1 wellFormed
    have scanned := scan_intercalate firstWellFormed othersWellFormed rest
    have written : listing (first :: others) ++ rest =
        '(' :: ([','].intercalate (first :: others) ++ ')' :: rest) := by simp [listing]
    rw [written]
    simp only [argumentList?, scanned, Option.map_some, Scanned.arguments, Option.some.injEq,
      Prod.mk.injEq, and_true, ite_eq_right_iff, ite_eq_left_iff, Bool.and_eq_true,
      List.isEmpty_iff]
    constructor
    · intro occupied single
      exact absurd ⟨first, single.2, by rw [single.1]⟩ occupied
    · rintro ⟨blank, allBlank, same⟩ notSingle
      obtain ⟨rfl, rfl⟩ := List.cons.inj same
      exact absurd ⟨rfl, allBlank⟩ notSingle

/-- What is read as a list was written as one. -/
theorem argumentList?_eq_some {text rest : Text} {found : List Text}
    (read : argumentList? text = some (found, rest)) :
    ∃ arguments, Listable arguments ∧ text = listing arguments ++ rest := by
  unfold argumentList? at read
  split at read
  · next inner =>
    obtain ⟨scanned, innerRead, same⟩ := Option.map_eq_some_iff.1 read
    obtain ⟨-, rfl⟩ := Prod.mk.inj same
    obtain ⟨first, others⟩ := scan_wellFormed innerRead
    refine ⟨scanned.arguments, ⟨by simp [Scanned.arguments], ?_⟩, ?_⟩
    · exact List.forall_mem_cons.2 ⟨first, others⟩
    · rw [scan_eq_some innerRead]
      simp [listing]
  · simp at read

/-- No list is read exactly where none is written. -/
theorem argumentList?_eq_none_iff {text : Text} :
    argumentList? text = none ↔
      ∀ arguments rest, Listable arguments → text ≠ listing arguments ++ rest := by
  constructor
  · rintro unread arguments rest listable rfl
    obtain ⟨whole, vacant⟩ := argumentList?_listing listable rest
    by_cases blank : Vacant arguments
    · simp [vacant blank] at unread
    · simp [whole blank] at unread
  · intro unwritten
    cases read : argumentList? text with
    | none => rfl
    | some pair =>
      obtain ⟨found, rest⟩ := pair
      obtain ⟨arguments, listable, written⟩ := argumentList?_eq_some read
      exact absurd written (unwritten arguments rest listable)

/-! ## Lists at a place of a text -/

/-- A list has its parentheses at least, so it does not end where it starts. -/
theorem utf8Length_append_listing (before : Text) (arguments : List Text) :
    Text.utf8Length (before ++ listing arguments) ≠ Text.utf8Length before := by
  have parenthesis : ('(' : Char).utf8Size = 1 := by decide
  simp only [listing, Text.utf8Length_append, List.cons_append, Text.utf8Length_cons, parenthesis]
  omega

/-- A list that is found stops behind its closing parenthesis. -/
theorem parseArguments?_of_some {before consumed rest : Text} {arguments : List Text}
    (read : argumentList? (consumed ++ rest) = some (arguments, rest)) :
    parseArguments? (before ++ (consumed ++ rest)) (Text.utf8Length before) =
      some ⟨arguments, Text.utf8Length (before ++ consumed)⟩ := by
  simp only [parseArguments?, Text.cutAt?_utf8Length, Option.map_some, argumentsOf, read,
    Option.getD_some, Text.upTo_append, Text.utf8Length_append]

/-- Where there is no list, nothing is consumed. -/
theorem parseArguments?_of_none {before text : Text} (unread : argumentList? text = none) :
    parseArguments? (before ++ text) (Text.utf8Length before) =
      some ⟨[], Text.utf8Length before⟩ := by
  have nothing : Text.upTo text text = [] := Text.upTo_append [] text
  simp only [parseArguments?, Text.cutAt?_utf8Length, Option.map_some, argumentsOf, unread,
    Option.getD_none, nothing, Text.utf8Length_nil, Nat.add_zero]

/-- Reading at a place of a text accepts exactly the lists that can be written. A list
that stands there is read back as it was, or as no arguments if it is vacant, up to
where it ends. Conversely, what is consumed is the list of the arguments that are found,
or blanks between parentheses if there are none; and if nothing is consumed, there are
no arguments, and no list stands at that place. -/
theorem parseArguments?_accepts_listings (before : Text) :
    (∀ arguments rest, Listable arguments →
      (¬ Vacant arguments →
        parseArguments? (before ++ (listing arguments ++ rest)) (Text.utf8Length before) =
          some ⟨arguments, Text.utf8Length (before ++ listing arguments)⟩) ∧
      (Vacant arguments →
        parseArguments? (before ++ (listing arguments ++ rest)) (Text.utf8Length before) =
          some ⟨[], Text.utf8Length (before ++ listing arguments)⟩)) ∧
    ∀ text, ∃ parsed,
      parseArguments? (before ++ text) (Text.utf8Length before) = some parsed ∧
      (parsed.stop ≠ Text.utf8Length before → ∃ consumed rest,
        text = consumed ++ rest ∧ parsed.stop = Text.utf8Length (before ++ consumed) ∧
        (Listable parsed.arguments ∧ ¬ Vacant parsed.arguments ∧
            consumed = listing parsed.arguments ∨
          parsed.arguments = [] ∧
            ∃ blank : Text, blank.all Text.isBlank = true ∧ consumed = listing [blank])) ∧
      (parsed.stop = Text.utf8Length before → parsed.arguments = [] ∧
        ∀ arguments rest, Listable arguments → text ≠ listing arguments ++ rest) := by
  constructor
  · intro arguments rest listable
    obtain ⟨whole, vacant⟩ := argumentList?_listing listable rest
    exact ⟨fun occupied => parseArguments?_of_some (whole occupied),
      fun blank => parseArguments?_of_some (vacant blank)⟩
  · intro text
    cases read : argumentList? text with
    | none =>
      refine ⟨_, parseArguments?_of_none read, fun consumed => absurd rfl consumed, fun _ => ?_⟩
      exact ⟨rfl, argumentList?_eq_none_iff.1 read⟩
    | some pair =>
      -- What was consumed is a list, which is read back by the first part.
      obtain ⟨found, rest⟩ := pair
      obtain ⟨arguments, listable, rfl⟩ := argumentList?_eq_some read
      obtain ⟨whole, vacant⟩ := argumentList?_listing listable rest
      refine ⟨_, parseArguments?_of_some read, fun _ => ⟨listing arguments, rest, rfl, rfl, ?_⟩, ?_⟩
      · by_cases blank : Vacant arguments
        · obtain ⟨rfl, -⟩ := Prod.mk.inj (Option.some.inj (read.symm.trans (vacant blank)))
          obtain ⟨inner, allBlank, rfl⟩ := blank
          exact .inr ⟨rfl, inner, allBlank, rfl⟩
        · obtain ⟨rfl, -⟩ := Prod.mk.inj (Option.some.inj (read.symm.trans (whole blank)))
          exact .inl ⟨listable, blank, rfl⟩
      · intro stays
        exact absurd stays (utf8Length_append_listing before arguments)

/-- A list with an inner call, a quoted comma and a quoted parenthesis, and characters of
several bytes around it. -/
theorem parseArguments?_accepts_listings_nested :
    Listable ["f(ä, b) ".toList, " 'x,)\\''".toList] ∧
      ¬ Vacant ["f(ä, b) ".toList, " 'x,)\\''".toList] ∧
      parseArguments? ("$__ü".toList ++ (listing ["f(ä, b) ".toList, " 'x,)\\''".toList] ++
          " AND €".toList)) 5 =
        some ⟨["f(ä, b) ".toList, " 'x,)\\''".toList], 25⟩ := by
  have listable : Listable ["f(ä, b) ".toList, " 'x,)\\''".toList] :=
    ⟨by decide, by decide⟩
  have occupied : ¬ Vacant ["f(ä, b) ".toList, " 'x,)\\''".toList] := by
    rintro ⟨blank, -, same⟩
    have single : 2 = 1 := congrArg List.length same
    exact absurd single (by decide)
  exact ⟨listable, occupied,
    ((parseArguments?_accepts_listings "$__ü".toList).1 _ " AND €".toList listable).1 occupied⟩

end QueryMacros.Macro
