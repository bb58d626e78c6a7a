import QueryMacros.Proofs.Text.Trim
import QueryMacros.Sql.Table

/-!
# Where a query names its table

A table is named by a *clause*: the word `FROM`, blanks, and a run of characters that are
none, up to the next blank or to the end. What stands in front of a blank is read without
regard to what follows it, so a front text that ends in a blank names the same tables
first, whatever is put behind it.
-/
namespace QueryMacros.Sql

/-- A word, the blanks behind it and the token behind these name a table, if the word
begins where it stands and the token ends there. -/
structure Clause (previous : Option Char) (word blanks token rest : Text) : Prop where
  edge : Text.wordEdge previous word.head? = true
  named : Text.equalsIgnoringAsciiCase word fromWord = true
  apart : blanks ≠ []
  blank : blanks.all Text.isBlank = true
  filled : token ≠ []
  solid : ∀ c ∈ token, Text.isBlank c = false
  ended : rest.head?.all Text.isBlank = true

/-- The word that names a table has four letters in any letter case. -/
theorem length_of_named {word : Text}
    (named : Text.equalsIgnoringAsciiCase word fromWord = true) : word.length = 4 := by
  have same := congrArg List.length (beq_iff_eq.1 named)
  simpa [fromWord] using same

/-- What is behind the characters that pass a test does not begin with one. -/
theorem head?_dropWhile_all (test : Char → Bool) (text : Text) :
    (text.dropWhile test).head?.all (fun c => !test c) = true := by
  have head := List.head?_dropWhile_not test text
  cases left : (text.dropWhile test).head? with
  | none => rfl
  | some c =>
    rw [left] at head
    simp [head]

/-- A token is read exactly where a clause stands. What reading cuts off are the parts of
the clause, and from these parts it cuts off the same again. -/
theorem fromToken?_eq_some_iff {previous : Option Char} {text token rest : Text} :
    fromToken? previous text = some (token, rest) ↔
      ∃ word blanks, text = word ++ (blanks ++ (token ++ rest)) ∧
        Clause previous word blanks token rest := by
  constructor
  · intro found
    unfold fromToken? at found
    simp only [Bool.and_eq_true, Bool.not_eq_true', List.isEmpty_eq_false_iff,
      Option.ite_none_right_eq_some, Option.some.injEq, Prod.mk.injEq] at found
    obtain ⟨⟨⟨⟨edge, named⟩, apart⟩, filled⟩, rfl, rfl⟩ := found
    -- The three parts are the ones that reading cuts off in turn.
    refine ⟨text.take fromWord.length, (text.drop fromWord.length).takeWhile Text.isBlank, ?_, ?_⟩
    · rw [List.takeWhile_append_dropWhile, List.takeWhile_append_dropWhile,
        List.take_append_drop]
    · constructor
      · have four : fromWord.length = 4 := by decide
        simpa [List.head?_take, four] using edge
      · exact named
      · cases behind : text.drop fromWord.length with
        | nil => simp [behind] at apart
        | cons c behind' =>
          have blank : Text.isBlank c = true := by simpa [behind] using apart
          rw [List.takeWhile_cons_of_pos blank]
          exact List.cons_ne_nil _ _
      · exact List.all_takeWhile
      · exact filled
      · intro c member
        have solid := List.all_eq_true.1 List.all_takeWhile c member
        simpa using solid
      · simpa using head?_dropWhile_all (fun c => !Text.isBlank c)
          ((text.drop fromWord.length).dropWhile Text.isBlank)
  · rintro ⟨word, blanks, rfl, clause⟩
    obtain ⟨edge, named, apart, blank, filled, solid, ended⟩ := clause
    have four : word.length = fromWord.length := length_of_named named
    -- Conversely, each part ends where the next one begins, so the same cuts are made.
    have whole : (blanks ++ (token ++ rest)).dropWhile Text.isBlank = token ++ rest := by
      obtain ⟨c, others, rfl⟩ := List.exists_cons_of_ne_nil filled
      have stops : ¬ Text.isBlank c = true := by simp [solid c List.mem_cons_self]
      rw [dropWhile_append_of_all blank, List.cons_append, List.dropWhile_cons_of_neg stops]
    have notBlank : ∀ c ∈ token, (!Text.isBlank c) = true := by
      intro c member
      simp [solid c member]
    have stops : rest.head?.any (fun c => !Text.isBlank c) = false := by
      cases rest with
      | nil => rfl
      | cons c rest => simpa using ended
    have taken := takeWhile_append_of_stops notBlank stops
    have left := dropWhile_append_of_stops notBlank stops
    have head : (word ++ (blanks ++ (token ++ rest))).head? = word.head? := by
      cases word with
      | nil => cases four
      | cons c word => rfl
    have begins : (blanks ++ (token ++ rest)).head?.any Text.isBlank = true := by
      obtain ⟨c, others, rfl⟩ := List.exists_cons_of_ne_nil apart
      rw [List.all_cons, Bool.and_eq_true] at blank
      simpa using blank.1
    have present : token.isEmpty = false := by simpa using filled
    unfold fromToken?
    simp only [List.drop_left' four, List.take_left' four, whole, taken, left, head, begins, edge,
      named, present, Bool.not_false, Bool.and_self, ↓reduceIte]

/-! ## The tokens of a text -/

/-- A token that a table is named by comes first, and the search goes on behind it. -/
theorem fromTokens_of_some {previous : Option Char} {text token rest : Text}
    (found : fromToken? previous text = some (token, rest)) :
    fromTokens previous text = token :: fromTokens token.getLast? rest := by
  rw [fromTokens]
  split
  · next same =>
    obtain ⟨rfl, rfl⟩ := Prod.mk.inj (Option.some.inj (found.symm.trans same))
    rfl
  · next missing =>
    rw [found] at missing
    cases missing

/-- A place where no table is named is passed over. -/
theorem fromTokens_cons_of_none {previous : Option Char} {c : Char} {text : Text}
    (missing : fromToken? previous (c :: text) = none) :
    fromTokens previous (c :: text) = fromTokens (some c) text := by
  rw [fromTokens]
  split
  · next found =>
    rw [missing] at found
    cases found
  · rfl

/-- The first letter of the word, in either case, stands where a token is read. -/
theorem exists_f_of_named {word : Text}
    (named : Text.equalsIgnoringAsciiCase word fromWord = true) :
    ∃ c others, word = c :: others ∧ Text.foldAscii c = 'f' ∧
      ∀ other ∈ others, Text.foldAscii other ≠ 'f' := by
  have same : word.map Text.foldAscii = ['f', 'r', 'o', 'm'] := beq_iff_eq.1 named
  obtain ⟨c, others, rfl, first, later⟩ := List.map_eq_cons_iff.1 same
  refine ⟨c, others, rfl, first, ?_⟩
  intro other member
  have among : Text.foldAscii other ∈ ['r', 'o', 'm'] := by
    rw [← later]
    exact List.mem_map_of_mem member
  intro letter
  rw [letter] at among
  revert among
  decide

/-- The word begins with a character of words. -/
theorem isWord_head_of_named {word : Text}
    (named : Text.equalsIgnoringAsciiCase word fromWord = true) :
    word.head?.any Text.isWord = true := by
  obtain ⟨c, others, rfl, letter, -⟩ := exists_f_of_named named
  have small : c.toNat < 128 := by
    unfold Text.foldAscii Char.toLower at letter
    split at letter
    · next upper =>
      have last : 'Z'.val.toNat = 90 := rfl
      have same : c.val.toNat = c.toNat := rfl
      have bound := UInt32.le_iff_toNat_le.1 upper.2
      omega
    · rw [letter]
      decide
  have among : ∀ place < 128, Text.foldAscii (Char.ofNat place) = 'f' →
      Text.isWord (Char.ofNat place) = true := by
    decide +kernel
  have isWord := among c.toNat small
  rw [Char.ofNat_toNat] at isWord
  exact isWord letter

/-- Without the first letter of the word, no table is named. -/
theorem fromToken?_of_no_f {previous : Option Char} {text : Text}
    (absent : ∀ c ∈ text, Text.foldAscii c ≠ 'f') : fromToken? previous text = none := by
  cases found : fromToken? previous text with
  | none => rfl
  | some pair =>
    obtain ⟨word, blanks, rfl, clause⟩ := fromToken?_eq_some_iff.1 found
    obtain ⟨c, others, rfl, letter, -⟩ := exists_f_of_named clause.named
    exact absurd letter (absent c (by simp))

/-- No table is named where the first letter of the word is missing. -/
theorem fromTokens_of_no_f {previous : Option Char} {text : Text}
    (absent : ∀ c ∈ text, Text.foldAscii c ≠ 'f') : fromTokens previous text = [] := by
  induction text generalizing previous with
  | nil =>
    rw [fromTokens]
    split
    · next found =>
      rw [fromToken?_of_no_f absent] at found
      cases found
    · rfl
  | cons c text inductionHypothesis =>
    rw [fromTokens_cons_of_none (fromToken?_of_no_f absent)]
    exact inductionHypothesis fun d member => absent d (List.mem_cons_of_mem c member)

/-! ## Front texts -/

/-- The text is empty or ends in a blank, so no word goes on behind it. -/
def Rested (text : Text) : Prop := text.getLast?.all Text.isBlank = true

/-- The back of a rested text is rested. -/
theorem Rested.of_append {front rest : Text} (rested : Rested (front ++ rest)) : Rested rest := by
  by_cases vacant : rest = []
  · rw [vacant]
    rfl
  · unfold Rested at rested ⊢
    rw [List.getLast?_append, List.getLast?_eq_some_getLast vacant] at rested
    rw [List.getLast?_eq_some_getLast vacant]
    exact rested

/-- Characters that are no blanks do not end a rested text. -/
theorem Rested.eq_nil {front back : Text} (rested : Rested (front ++ back))
    (solid : ∀ c ∈ back, Text.isBlank c = false) : back = [] := by
  by_cases filled : back = []
  · exact filled
  · have last := rested.of_append
    unfold Rested at last
    rw [List.getLast?_eq_some_getLast filled] at last
    have blank : Text.isBlank (back.getLast filled) = true := last
    rw [solid _ (List.getLast_mem filled)] at blank
    cases blank

/-- Behind a rested text the word begins where it stands. -/
theorem Rested.wordEdge {front word : Text} (rested : Rested front)
    (named : Text.equalsIgnoringAsciiCase word fromWord = true) :
    Text.wordEdge front.getLast? word.head? = true := by
  have outside : front.getLast?.any Text.isWord = false := by
    unfold Rested at rested
    cases last : front.getLast? with
    | none => rfl
    | some c =>
      rw [last] at rested
      exact Text.isWord_of_isBlank rested
  rw [Text.wordEdge, outside, isWord_head_of_named named]
  rfl

/-- A token of a rested front text is read in every longer text. -/
theorem fromToken?_append_of_some {previous : Option Char} {front token rest : Text}
    (rested : Rested front) (found : fromToken? previous front = some (token, rest))
    (more : Text) :
    fromToken? previous (front ++ more) = some (token, rest ++ more) := by
  obtain ⟨word, blanks, rfl, clause⟩ := fromToken?_eq_some_iff.1 found
  have inhabited : rest ≠ [] := by
    rintro rfl
    rw [List.append_nil, ← List.append_assoc] at rested
    exact clause.filled (rested.eq_nil clause.solid)
  refine fromToken?_eq_some_iff.2 ⟨word, blanks, by simp, ?_⟩
  obtain ⟨c, others, rfl⟩ := List.exists_cons_of_ne_nil inhabited
  exact { clause with ended := clause.ended }

/-- A blank has no other case. -/
theorem foldAscii_of_isBlank {c : Char} (blank : Text.isBlank c = true) :
    Text.foldAscii c = c := by
  have place := Text.isBlank_toNat blank
  have small : ¬ (c.val ≥ 'A'.val ∧ c.val ≤ 'Z'.val) := by
    have first : 'A'.val.toNat = 65 := rfl
    have last : 'Z'.val.toNat = 90 := rfl
    have same : c.val.toNat = c.toNat := rfl
    simp only [ge_iff_le, UInt32.le_iff_toNat_le]
    omega
  exact dif_neg small

/-- No letter of the word is a blank. -/
theorem isBlank_of_mem_named {word : Text} {c : Char}
    (named : Text.equalsIgnoringAsciiCase word fromWord = true) (member : c ∈ word) :
    Text.isBlank c = false := by
  cases blank : Text.isBlank c with
  | false => rfl
  | true =>
    have same : word.map Text.foldAscii = ['f', 'r', 'o', 'm'] := beq_iff_eq.1 named
    have among : c ∈ ['f', 'r', 'o', 'm'] := by
      rw [← foldAscii_of_isBlank blank, ← same]
      exact List.mem_map_of_mem member
    have solid : ['f', 'r', 'o', 'm'].any Text.isBlank = false := by decide
    exact absurd blank (List.any_eq_false.1 solid c among)

/-- Where a rested front text names no table but a longer text does, the front text stops
in front of the token. -/
theorem prefix_of_crossing {previous : Option Char} {front more token rest : Text}
    {word blanks : Text} (rested : Rested front) (missing : fromToken? previous front = none)
    (split : front ++ more = word ++ blanks ++ (token ++ rest))
    (clause : Clause previous word blanks token rest) : front <+: word ++ blanks := by
  rcases List.append_eq_append_iff.1 split with ⟨part, whole, -⟩ | ⟨part, whole, behind⟩
  · exact ⟨part, whole.symm⟩
  rcases List.append_eq_append_iff.1 behind with ⟨left, taken, ended⟩ | ⟨left, taken, ended⟩
  · -- The whole token lies in the front text, which would name it.
    have inhabited : left ≠ [] := by
      rintro rfl
      rw [List.append_nil] at taken
      rw [whole, taken] at rested
      exact clause.filled (rested.eq_nil clause.solid)
    obtain ⟨c, others, rfl⟩ := List.exists_cons_of_ne_nil inhabited
    have found : fromToken? previous front = some (token, c :: others) := by
      refine fromToken?_eq_some_iff.2 ⟨word, blanks, ?_, ?_⟩
      · rw [whole, taken, List.append_assoc]
      · rw [ended] at clause
        exact { clause with ended := clause.ended }
    rw [missing] at found
    cases found
  · rw [whole] at rested
    have nothing := rested.eq_nil fun c member => clause.solid c (by simp [taken, member])
    refine ⟨[], ?_⟩
    rw [whole, nothing, List.append_nil, List.append_nil]

/-- What follows the first character of a word and blanks names no table. -/
theorem fromTokens_of_starts {c : Char} {front word blanks : Text}
    (named : Text.equalsIgnoringAsciiCase word fromWord = true)
    (blank : blanks.all Text.isBlank = true) (starts : c :: front <+: word ++ blanks) :
    fromTokens (some c) front = [] := by
  obtain ⟨back, whole⟩ := starts
  obtain ⟨d, others, rfl, -, different⟩ := exists_f_of_named named
  have behind : front ++ back = others ++ blanks := (List.cons.inj whole).2
  apply fromTokens_of_no_f
  intro e member
  have among : e ∈ others ++ blanks := by
    rw [← behind]
    exact List.mem_append_left back member
  rcases List.mem_append.1 among with inWord | inBlanks
  · exact different e inWord
  · have isBlank := List.all_eq_true.1 blank e inBlanks
    rw [foldAscii_of_isBlank isBlank]
    rintro rfl
    exact absurd isBlank (by decide)

/-- The tokens of a rested front text are the first ones of every longer text. The
induction is on the front text, of which a token leaves less. -/
theorem fromTokens_append_starts {previous : Option Char} {front : Text} (rested : Rested front)
    (more : Text) : fromTokens previous front <+: fromTokens previous (front ++ more) := by
  induction size : front.length using Nat.strongRecOn generalizing previous front with
  | ind length inductionHypothesis =>
    cases found : fromToken? previous front with
    | some pair =>
      obtain ⟨token, rest⟩ := pair
      have longer := fromToken?_append_of_some rested found more
      obtain ⟨word, blanks, split, -⟩ := fromToken?_eq_some_iff.1 found
      have restedBehind : Rested rest := by
        rw [split, ← List.append_assoc, ← List.append_assoc] at rested
        exact rested.of_append
      rw [fromTokens_of_some found, fromTokens_of_some longer]
      apply (List.prefix_cons_inj token).2
      exact inductionHypothesis _ (size ▸ fromToken?_length found) restedBehind rfl
    | none =>
      cases front with
      | nil =>
        rw [fromTokens_of_no_f (by simp)]
        exact List.nil_prefix
      | cons c front =>
        have restedBehind : Rested front := @Rested.of_append [c] front rested
        rw [fromTokens_cons_of_none found]
        cases crossing : fromToken? previous (c :: front ++ more) with
        | some pair =>
          obtain ⟨word, blanks, split, clause⟩ := fromToken?_eq_some_iff.1 crossing
          rw [← List.append_assoc] at split
          -- Only a token across the end can be new, and then the front text has none left.
          rw [fromTokens_of_starts clause.named clause.blank
            (prefix_of_crossing rested found split clause)]
          exact List.nil_prefix
        | none =>
          rw [List.cons_append] at crossing ⊢
          rw [fromTokens_cons_of_none crossing]
          exact inductionHypothesis _ (by rw [← size]; simp) restedBehind rfl

/-- The text names a table in front of a blank, and no subquery: whatever is put behind
it, the table is named. -/
def Settles (front : Text) : Prop :=
  ∃ start, start <+: front ∧ Rested start ∧ ∃ token ∈ fromTokens none start, token.head? ≠ some '('

/-- If a rested text names a table, nothing that is put behind it changes which. -/
theorem extractTable_append_of_rested {start : Text} (rested : Rested start)
    (named : ∃ token ∈ fromTokens none start, token.head? ≠ some '(') (rest : Text) :
    extractTable (start ++ rest) = extractTable start := by
  have settled : ((fromTokens none start).find? (·.head? != some '(')).isSome = true := by
    obtain ⟨token, member, plain⟩ := named
    rw [List.find?_isSome]
    exact ⟨token, member, by simpa using plain⟩
  obtain ⟨token, found⟩ := Option.isSome_iff_exists.1 settled
  have same := (fromTokens_append_starts rested rest).find?_eq_some found
  simp only [extractTable, found, same]

/-- Two texts that begin with a text that settles the table name the same one. -/
theorem Settles.extractTable_eq {front left right : Text} (settles : Settles front)
    (starts : front <+: left) (otherStarts : front <+: right) :
    extractTable left = extractTable right := by
  obtain ⟨start, within, rested, named⟩ := settles
  obtain ⟨rest, rfl⟩ := within.trans starts
  obtain ⟨otherRest, rfl⟩ := within.trans otherStarts
  rw [extractTable_append_of_rested rested named, extractTable_append_of_rested rested named]

end QueryMacros.Sql
