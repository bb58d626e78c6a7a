import QueryMacros.Macro.Occurrence

/-!
# The grammar of argument lists

A scan stands in a mode with a number of open parentheses. Walking over a text
moves it from one such state to another, without an answer where the text closes
more than it has opened or has a comma of the outermost level. A text is a *well
formed argument* if the walk over it starts and ends outside quotes with nothing
open. Such arguments, joined by commas and closed by a parenthesis, are what a scan
takes apart again; and whatever a scan takes apart was joined in this way.
-/
namespace QueryMacros.Macro

/-- Where a scan stands: how the next character is read, and how many inner
parentheses are open. -/
abbrev Standing := Mode × Nat

/-- Outside quotes, with nothing open. -/
def outermost : Standing := (.plain, 0)

/-- What one character does to a scan inside an argument. There is no answer at a
comma of the outermost level, and at a parenthesis that closes the list. -/
def advance : Standing → Char → Option Standing
  | (.escaped quote, depth), _ => some (.quoted quote, depth)
  | (.quoted quote, depth), c =>
      if c = '\\' then some (.escaped quote, depth)
      else if c = quote then some (.plain, depth)
      else some (.quoted quote, depth)
  | (.plain, depth), c =>
      if isQuote c then some (.quoted c, depth)
      else if c = '(' then some (.plain, depth + 1)
      else if c = ')' then
        match depth with
        | 0 => none
        | outer + 1 => some (.plain, outer)
      else if c = ',' ∧ depth = 0 then none
      else some (.plain, depth)

/-- What a text does to a scan inside an argument. -/
def walk : Standing → Text → Option Standing
  | standing, [] => some standing
  | standing, c :: rest => (advance standing c).bind (walk · rest)

/-- A text that can be an argument: it closes what it opens, quotes included, and
has no comma of its own level. -/
def WellFormed (argument : Text) : Prop := walk outermost argument = some outermost

instance (argument : Text) : Decidable (WellFormed argument) :=
  inferInstanceAs (Decidable (_ = _))

/-- A scan over two texts is a scan over the one and then over the other. -/
theorem walk_append (standing : Standing) (front rest : Text) :
    walk standing (front ++ rest) = (walk standing front).bind (walk · rest) := by
  induction front generalizing standing with
  | nil => rfl
  | cons c front inductionHypothesis =>
    simp only [List.cons_append, walk]
    cases advance standing c with
    | none => rfl
    | some next => simp [inductionHypothesis]

/-- Parentheses that are open around a text do not disturb the walk over it. -/
theorem advance_deeper {mode mode' : Mode} {depth depth' : Nat} {c : Char} (more : Nat)
    (stepped : advance (mode, depth) c = some (mode', depth')) :
    advance (mode, depth + more) c = some (mode', depth' + more) := by
  cases mode with
  | escaped quote => simp_all [advance]
  | quoted quote =>
    simp only [advance] at stepped ⊢
    split at stepped
    · simp_all
    · split at stepped <;> simp_all
  | plain =>
    simp only [advance] at stepped ⊢
    by_cases quote : isQuote c = true
    · simp_all
    by_cases opening : c = '('
    · simp_all
      omega
    by_cases closing : c = ')'
    · cases depth with
      | zero => simp_all
      | succ outer =>
        rw [Nat.add_right_comm]
        simp_all
    by_cases comma : c = ',' ∧ depth = 0
    · simp_all
    · have still : ¬ (c = ',' ∧ depth + more = 0) := fun both => comma ⟨both.1, by omega⟩
      simp_all

/-- A scan that never closes more than it opened can be made inside further
parentheses. -/
theorem walk_deeper {standing standing' : Standing} {text : Text} (more : Nat)
    (walked : walk standing text = some standing') :
    walk (standing.1, standing.2 + more) text = some (standing'.1, standing'.2 + more) := by
  induction text generalizing standing with
  | nil =>
    obtain rfl := Option.some.inj walked
    rfl
  | cons c text inductionHypothesis =>
    obtain ⟨next, stepped, rest⟩ := Option.bind_eq_some_iff.1 walked
    simp only [walk, advance_deeper more stepped, Option.bind_some]
    exact inductionHypothesis rest

/-- A well-formed argument leaves every scan outside quotes as it was. -/
theorem WellFormed.walk_plain {argument : Text} (wellFormed : WellFormed argument) (depth : Nat) :
    walk (.plain, depth) argument = some (.plain, depth) := by
  have walked := walk_deeper depth wellFormed
  simpa [outermost] using walked

/-- Two arguments can be joined to one. -/
theorem WellFormed.append {front rest : Text} (first : WellFormed front)
    (second : WellFormed rest) : WellFormed (front ++ rest) := by
  rw [WellFormed, walk_append, show walk outermost front = some outermost from first,
    Option.bind_some]
  exact second

/-- A scan keeps a character that it can walk over. -/
theorem scan_cons {mode next : Mode} {depth nextDepth : Nat} {c : Char} (rest : Text)
    (stepped : advance (mode, depth) c = some (next, nextDepth)) :
    scan mode depth (c :: rest) = (scan next nextDepth rest).map (.keep c) := by
  cases mode with
  | escaped quote =>
    obtain ⟨rfl, rfl⟩ := Prod.mk.inj (Option.some.inj stepped)
    rfl
  | quoted quote =>
    simp only [advance] at stepped
    simp only [scan]
    grind
  | plain =>
    simp only [advance] at stepped
    simp only [scan]
    cases depth <;> grind

/-- A scan keeps the text that it walks over. -/
theorem scan_append {standing standing' : Standing} {front : Text} (rest : Text)
    (walked : walk standing front = some standing') :
    scan standing.1 standing.2 (front ++ rest) = (scan standing'.1 standing'.2 rest).map
      fun scanned => { scanned with first := front ++ scanned.first } := by
  induction front generalizing standing with
  | nil =>
    obtain rfl := Option.some.inj walked
    simp
  | cons c front inductionHypothesis =>
    obtain ⟨next, stepped, walkedRest⟩ := Option.bind_eq_some_iff.1 walked
    rw [List.cons_append, scan_cons _ stepped, inductionHypothesis walkedRest, Option.map_map]
    rfl

/-- Well-formed arguments, joined by commas and closed, are scanned apart. -/
theorem scan_intercalate {first : Text} {others : List Text} (wellFormed : WellFormed first)
    (allWellFormed : ∀ other ∈ others, WellFormed other) (rest : Text) :
    scan .plain 0 ([','].intercalate (first :: others) ++ ')' :: rest) =
      some ⟨first, others, rest⟩ := by
  induction others generalizing first with
  | nil =>
    rw [List.intercalate_singleton]
    refine (scan_append (')' :: rest) wellFormed).trans ?_
    simp [outermost, scan, isQuote]
  | cons second others inductionHypothesis =>
    obtain ⟨secondWellFormed, othersWellFormed⟩ := List.forall_mem_cons.1 allWellFormed
    have behind := inductionHypothesis secondWellFormed othersWellFormed
    rw [List.intercalate_cons_cons, List.append_assoc, List.append_assoc]
    refine (scan_append _ wellFormed).trans ?_
    simp only [outermost, List.singleton_append]
    rw [scan]
    simp [isQuote, behind, Scanned.split]

/-- A scan takes apart what was joined: the arguments with commas between them and
a parenthesis behind them are the text that was scanned. -/
theorem scan_eq_some {mode : Mode} {depth : Nat} {text : Text} {scanned : Scanned}
    (read : scan mode depth text = some scanned) :
    text = [','].intercalate scanned.arguments ++ ')' :: scanned.rest := by
  have kept (c : Char) (inner : Scanned) :
      [','].intercalate (inner.keep c).arguments = c :: [','].intercalate inner.arguments := by
    cases inner with
    | mk first others rest => cases others <;> rfl
  have split (inner : Scanned) :
      [','].intercalate inner.split.arguments = ',' :: [','].intercalate inner.arguments := rfl
  fun_induction scan mode depth text generalizing scanned with
  | case1 => simp at read
  | case2 _ _ _ _ inductionHypothesis
  | case3 _ _ _ inductionHypothesis
  | case4 _ _ _ _ inductionHypothesis
  | case5 _ _ _ _ _ _ inductionHypothesis
  | case6 _ _ _ _ inductionHypothesis
  | case7 _ _ _ inductionHypothesis
  | case9 _ _ _ _ inductionHypothesis
  | case11 _ _ _ _ _ _ _ inductionHypothesis =>
    obtain ⟨inner, innerRead, rfl⟩ := Option.map_eq_some_iff.1 read
    rw [kept, inductionHypothesis innerRead]
    rfl
  | case8 =>
    obtain rfl := Option.some.inj read
    rfl
  | case10 _ _ _ _ _ _ comma inductionHypothesis =>
    obtain ⟨inner, innerRead, rfl⟩ := Option.map_eq_some_iff.1 read
    rw [split, inductionHypothesis innerRead, comma.1]
    rfl

/-- The arguments behind a name, if they are well formed and not one blank text.
No argument at all is written as an empty list. -/
theorem argumentsOf_intercalate {arguments : List Text}
    (wellFormed : ∀ argument ∈ arguments, WellFormed argument)
    (notBlank : ∀ argument ∈ arguments, argument.all Text.isBlank = false) (rest : Text) :
    argumentsOf ('(' :: [','].intercalate arguments ++ ')' :: rest) = (arguments, rest) := by
  cases arguments with
  | nil =>
    simp [argumentsOf, argumentList?, scan, isQuote]
  | cons first others =>
    obtain ⟨firstWellFormed, othersWellFormed⟩ := List.forall_mem_cons.1 wellFormed
    have scanned := scan_intercalate firstWellFormed othersWellFormed rest
    have filled := notBlank first List.mem_cons_self
    simp only [argumentsOf, argumentList?, List.cons_append, scanned, Option.map_some, filled,
      Bool.and_false, Bool.false_eq_true, ↓reduceIte, Option.getD_some, Scanned.arguments]

/-- The arguments behind a name are what was read up to the text behind them,
commas, parentheses and blanks apart. -/
theorem argumentsOf_consumed (text : Text) :
    ∃ consumed, text = consumed ++ (argumentsOf text).2 ∧
      ((argumentsOf text).1 = [] ∧ (∀ c ∈ consumed, c = '(' ∨ c = ')' ∨ Text.isBlank c = true) ∨
        consumed = '(' :: [','].intercalate (argumentsOf text).1 ++ [')']) := by
  unfold argumentsOf argumentList?
  split
  · next inner =>
    cases read : scan .plain 0 inner with
    | none => exact ⟨[], by simp, Or.inl (by simp)⟩
    | some scanned =>
      have whole := scan_eq_some read
      refine ⟨'(' :: [','].intercalate scanned.arguments ++ [')'], by simp [whole], ?_⟩
      by_cases vacant : (scanned.others.isEmpty && scanned.first.all Text.isBlank) = true
      · simp only [Option.map_some, Option.getD_some, vacant, ↓reduceIte, true_and]
        obtain ⟨single, blank⟩ := Bool.and_eq_true_iff.1 vacant
        left
        have blanks := List.all_eq_true.1 blank
        simp only [Scanned.arguments, List.isEmpty_iff.1 single, List.intercalate_singleton]
        grind
      · right
        simp only [Option.map_some, Option.getD_some, vacant, Bool.false_eq_true, ↓reduceIte]
  · exact ⟨[], by simp, Or.inl (by simp)⟩

end QueryMacros.Macro
