import QueryMacros.Text.Character

/-!
# Runs and trimming

A run at the front of a text ends in front of the first character that does not go on with
it. Trimming takes blanks off the two ends of a text and stops at the first character that
is none. What is left either is empty or is solid at both ends; and it is found again
whatever blanks are put around it. This is said of any list whose elements may be blank,
of which a text is one.
-/
namespace QueryMacros

variable {α : Type}

section Run

variable {test : α → Bool} {run rest : List α}

/-- A run is taken up to the first element that does not go on with it. -/
theorem takeWhile_append_of_stops (inside : ∀ a ∈ run, test a = true)
    (stops : rest.head?.any test = false) : (run ++ rest).takeWhile test = run := by
  rw [List.takeWhile_append_of_pos inside]
  cases rest with
  | nil => rw [List.takeWhile_nil, List.append_nil]
  | cons a rest =>
    have outside : ¬ test a = true := by simpa using stops
    rw [List.takeWhile_cons_of_neg outside, List.append_nil]

/-- What is left behind a run begins with the element that does not go on with it. -/
theorem dropWhile_append_of_stops (inside : ∀ a ∈ run, test a = true)
    (stops : rest.head?.any test = false) : (run ++ rest).dropWhile test = rest := by
  rw [List.dropWhile_append_of_pos inside]
  cases rest with
  | nil => rfl
  | cons a rest =>
    have outside : ¬ test a = true := by simpa using stops
    rw [List.dropWhile_cons_of_neg outside]

/-- Behind the longest run nothing goes on with it. -/
theorem stops_dropWhile (test : α → Bool) (list : List α) :
    (list.dropWhile test).head?.any test = false := by
  have stopped := List.head?_dropWhile_not test list
  cases head : (list.dropWhile test).head? with
  | none => rfl
  | some a =>
    rw [head] at stopped
    simpa using stopped

/-- A run that ends in front of an element does not hold it. -/
theorem not_mem_takeWhile_ne [BEq α] [LawfulBEq α] (last : α) (list : List α) :
    last ∉ list.takeWhile (· != last) := fun member =>
  bne_iff_ne.1 (List.all_eq_true.1 (List.all_takeWhile (p := (· != last))) last member) rfl

/-- Behind such a run the element follows if the list has it. -/
theorem dropWhile_ne_eq_cons [BEq α] [LawfulBEq α] {last : α} {list : List α}
    (member : last ∈ list) :
    list.dropWhile (· != last) = last :: (list.dropWhile (· != last)).drop 1 := by
  have stops := stops_dropWhile (· != last) list
  cases dropped : list.dropWhile (· != last) with
  | nil =>
    have whole := List.takeWhile_append_dropWhile (p := (· != last)) (l := list)
    rw [dropped, List.append_nil] at whole
    exact absurd (whole.symm ▸ member) (not_mem_takeWhile_ne last list)
  | cons a behind =>
    rw [dropped] at stops
    obtain rfl : a = last := by simpa using stops
    rfl

end Run

/-- The list without the blanks at its ends. -/
def strip (blank : α → Bool) (list : List α) : List α :=
  ((list.dropWhile blank).reverse.dropWhile blank).reverse

/-- The first element is there, and is not blank. -/
def Starts (blank : α → Bool) (list : List α) : Prop :=
  ∃ first rest, list = first :: rest ∧ blank first = false

/-- The last element is there, and is not blank. -/
def Ends (blank : α → Bool) (list : List α) : Prop :=
  ∃ front last, list = front ++ [last] ∧ blank last = false

/-- A list that is not empty, with no blank at either end. -/
structure Solid (blank : α → Bool) (list : List α) : Prop where
  starts : Starts blank list
  ends : Ends blank list

/-- A list keeps its start when more is put behind it. -/
theorem Starts.append {blank : α → Bool} {front : List α} (starts : Starts blank front)
    (rest : List α) : Starts blank (front ++ rest) := by
  obtain ⟨first, others, rfl, filled⟩ := starts
  exact ⟨first, others ++ rest, rfl, filled⟩

/-- A list keeps its end when more is put in front. -/
theorem Ends.append {blank : α → Bool} {back : List α} (ends : Ends blank back)
    (front : List α) : Ends blank (front ++ back) := by
  obtain ⟨others, last, rfl, filled⟩ := ends
  exact ⟨front ++ others, last, by rw [List.append_assoc], filled⟩

namespace Solid

variable {blank : α → Bool}

/-- A single element that is not blank is solid. -/
theorem of_not_blank {a : α} (filled : blank a = false) : Solid blank [a] :=
  ⟨⟨a, [], rfl, filled⟩, ⟨[], a, rfl, filled⟩⟩

/-- A list of elements that are not blank is solid. -/
theorem of_forall {list : List α} (present : list ≠ []) (filled : ∀ a ∈ list, blank a = false) :
    Solid blank list := by
  constructor
  · obtain ⟨first, rest, rfl⟩ := List.exists_cons_of_ne_nil present
    exact ⟨first, rest, rfl, filled first List.mem_cons_self⟩
  · have last := filled (list.getLast present) (List.getLast_mem present)
    exact ⟨list.dropLast, _, (List.dropLast_concat_getLast present).symm, last⟩

/-- A solid list does not consist of blanks. -/
theorem not_all_blank {list : List α} (solid : Solid blank list) : list.all blank = false := by
  obtain ⟨a, rest, rfl, filled⟩ := solid.starts
  rw [List.all_cons, filled, Bool.false_and]

/-- A solid list is not empty. -/
theorem ne_nil {list : List α} (solid : Solid blank list) : list ≠ [] := by
  obtain ⟨a, rest, rfl, -⟩ := solid.starts
  exact List.cons_ne_nil a rest

end Solid

section Strip

variable {blank : α → Bool}

/-- Stripping also takes off the blanks that end a list, once those in front are
gone. -/
theorem dropWhile_split (blank : α → Bool) (list : List α) :
    ∃ back, list.dropWhile blank = strip blank list ++ back ∧ back.all blank = true := by
  refine ⟨((list.dropWhile blank).reverse.takeWhile blank).reverse, ?_, ?_⟩
  · rw [strip, ← List.reverse_append, List.takeWhile_append_dropWhile, List.reverse_reverse]
  · rw [List.all_reverse]
    exact List.all_takeWhile

/-- Blanks are all that stripping takes off. -/
theorem strip_split (blank : α → Bool) (list : List α) :
    ∃ front back, list = front ++ strip blank list ++ back ∧ front.all blank = true ∧
      back.all blank = true := by
  obtain ⟨back, split, blankBack⟩ := dropWhile_split blank list
  refine ⟨list.takeWhile blank, back, ?_, List.all_takeWhile, blankBack⟩
  rw [List.append_assoc, ← split, List.takeWhile_append_dropWhile]

/-- Blanks in front are passed over. -/
theorem dropWhile_append_of_all {front : List α} (blanks : front.all blank = true)
    (rest : List α) : (front ++ rest).dropWhile blank = rest.dropWhile blank := by
  induction front with
  | nil => rfl
  | cons a front inductionHypothesis =>
    rw [List.all_cons, Bool.and_eq_true] at blanks
    rw [List.cons_append, List.dropWhile_cons_of_pos blanks.1, inductionHypothesis blanks.2]

/-- Where no blank stands in front, none is dropped. -/
theorem dropWhile_of_starts {list : List α} (starts : Starts blank list) :
    list.dropWhile blank = list := by
  obtain ⟨first, rest, rfl, filled⟩ := starts
  exact List.dropWhile_cons_of_neg (by simp [filled])

/-- A solid list is what is left when the blanks around it are taken off. -/
theorem strip_of_solid {front list back : List α} (blankFront : front.all blank = true)
    (solid : Solid blank list) (blankBack : back.all blank = true) :
    strip blank (front ++ list ++ back) = list := by
  have blankReversed : back.reverse.all blank = true := by
    rw [List.all_reverse]
    exact blankBack
  have starts : Starts blank (list ++ back) := solid.starts.append back
  have reversed : Starts blank list.reverse := by
    obtain ⟨init, last, rfl, filled⟩ := solid.ends
    exact ⟨last, init.reverse, by simp, filled⟩
  rw [strip, List.append_assoc, dropWhile_append_of_all blankFront, dropWhile_of_starts starts,
    List.reverse_append, dropWhile_append_of_all blankReversed, dropWhile_of_starts reversed,
    List.reverse_reverse]

/-- Of blanks alone nothing is left. -/
theorem strip_of_all {list : List α} (blanks : list.all blank = true) : strip blank list = [] := by
  have gone := dropWhile_append_of_all blanks []
  rw [List.append_nil] at gone
  rw [strip, gone]
  rfl

/-- What starts a list without blanks in front is not blank. -/
theorem starts_dropWhile {list : List α} (filled : list.all blank = false) :
    Starts blank (list.dropWhile blank) := by
  induction list with
  | nil => cases filled
  | cons a list inductionHypothesis =>
    cases here : blank a with
    | false => exact ⟨a, list, List.dropWhile_cons_of_neg (by simp [here]), here⟩
    | true =>
      rw [List.all_cons, here, Bool.true_and] at filled
      rw [List.dropWhile_cons_of_pos here]
      exact inductionHypothesis filled

/-- A list that is not all blank is solid when it is stripped. -/
theorem solid_strip {list : List α} (filled : list.all blank = false) :
    Solid blank (strip blank list) := by
  have startsFront := starts_dropWhile filled
  have filledBack : (list.dropWhile blank).reverse.all blank = false := by
    obtain ⟨first, rest, same, notBlank⟩ := startsFront
    rw [List.all_reverse, same, List.all_cons, notBlank, Bool.false_and]
  obtain ⟨last, init, sameBack, notBlankLast⟩ := starts_dropWhile filledBack
  have ended : strip blank list = init.reverse ++ [last] := by
    rw [strip, sameBack, List.reverse_cons]
  refine ⟨?_, ⟨init.reverse, last, ended, notBlankLast⟩⟩
  -- What is taken off at the end leaves an element, and the first of those is not blank.
  obtain ⟨first, rest, same, notBlank⟩ := startsFront
  obtain ⟨back, split, -⟩ := dropWhile_split blank list
  cases stripped : strip blank list with
  | nil =>
    rw [stripped] at ended
    exact absurd ended (by simp)
  | cons a others =>
    rw [same, stripped] at split
    obtain ⟨rfl, -⟩ := List.cons.inj split
    exact ⟨first, others, rfl, notBlank⟩

/-- Stripping twice takes off no more than stripping once. -/
theorem strip_strip (blank : α → Bool) (list : List α) :
    strip blank (strip blank list) = strip blank list := by
  cases filled : list.all blank with
  | true =>
    rw [strip_of_all filled]
    rfl
  | false =>
    have again : strip blank ([] ++ strip blank list ++ []) = strip blank list :=
      strip_of_solid rfl (solid_strip filled) rfl
    rwa [List.nil_append, List.append_nil] at again

end Strip

namespace Text

/-- Blanks of the basic block are the control characters from tab to return, and the
space. -/
theorem isBlank_toNat {c : Char} (blank : isBlank c = true) :
    9 ≤ c.toNat ∧ c.toNat ≤ 13 ∨ c.toNat = 32 ∨ 128 ≤ c.toNat := by
  simp only [isBlank, inRanges, whiteSpace, List.any_cons, List.any_nil, Bool.or_eq_true,
    Bool.and_eq_true, decide_eq_true_eq, Bool.or_false] at blank
  omega

/-- A digit is not blank. -/
theorem isBlank_of_isDigit {c : Char} (digit : c.isDigit = true) : isBlank c = false := by
  cases blank : isBlank c with
  | false => rfl
  | true =>
    have place := isBlank_toNat blank
    have zero : '0'.val.toNat = 48 := rfl
    have nine : '9'.val.toNat = 57 := rfl
    have same : c.val.toNat = c.toNat := rfl
    simp only [Char.isDigit, Bool.and_eq_true, decide_eq_true_eq, ge_iff_le,
      UInt32.le_iff_toNat_le] at digit
    omega

/-- A blank belongs to no word. -/
theorem isWord_of_isBlank {c : Char} (blank : isBlank c = true) : isWord c = false := by
  have places : ∀ range ∈ whiteSpace, ∀ place ∈ List.range' range.1 (range.2 + 1 - range.1),
      isWord (Char.ofNat place) = false := by
    decide +kernel
  obtain ⟨range, member, within⟩ := List.any_eq_true.1 blank
  simp only [Bool.and_eq_true, decide_eq_true_eq] at within
  have outside := places range member c.toNat (List.mem_range'_1.2 ⟨within.1, by omega⟩)
  rwa [Char.ofNat_toNat] at outside

/-- What can be taken off at the end of a text is taken off all together. -/
theorem dropEndWhile_append_of_all {test : Char → Bool} {back : Text}
    (dropped : back.all test = true) (front : Text) :
    dropEndWhile test (front ++ back) = dropEndWhile test front := by
  have droppedReversed : back.reverse.all test = true := by
    rw [List.all_reverse]
    exact dropped
  rw [dropEndWhile, List.reverse_append, dropWhile_append_of_all droppedReversed, dropEndWhile]

/-- What is taken off at the end of a text stops at a character that stays. -/
theorem dropEndWhile_append {test : Char → Bool} {front back : Text}
    (kept : ∀ c ∈ front, test c = false) (dropped : back.all test = true) :
    dropEndWhile test (front ++ back) = front := by
  have stays : front.reverse.dropWhile test = front.reverse := by
    cases reversed : front.reverse with
    | nil => rfl
    | cons c others =>
      have member : c ∈ front := List.mem_reverse.1 (reversed ▸ List.mem_cons_self)
      exact List.dropWhile_cons_of_neg (by simp [kept c member])
  rw [dropEndWhile_append_of_all dropped, dropEndWhile, stays, List.reverse_reverse]

/-- Trimming a text is stripping it of blanks. -/
theorem trim_eq_strip (text : Text) : trim text = strip isBlank text := rfl

end Text

end QueryMacros
