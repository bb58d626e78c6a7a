import Mathlib.Logic.ExistsUnique
import QueryMacros.Proofs.Context.Spelling

/-!
# What is recognised as a reference

The name that is found in a text is the one that the text refers to: blanks around it
apart, the text is one of the five spellings of a reference to that name, and of no other.

Which texts are references can also be told without their words. The words of a text leave
gaps: what stands in front of each of them, and what stands behind the last. The five
spellings have five sequences of gaps, and every text with one of these is a reference. So
an unclosed or a mixed bracket, a missing name or format, a second colon, a blank inside or
something behind the closing mark shows in the gaps, and nothing is found.
-/
namespace QueryMacros

/-! ## Gaps -/

namespace Text

/-- The gaps that the words of a text leave: what stands in front of each word, and what
stands behind the last. -/
def gaps : Text → List Text
  | [] => [[]]
  | c :: rest =>
      if !isWord c then (gaps rest).modifyHead (c :: ·)
      else if rest.head?.any isWord then gaps rest
      else [] :: gaps rest

/-- Characters that belong to no word go to the gap behind them. -/
theorem gaps_append_of_marks {marks rest gap : Text} {later : List Text}
    (outside : marks.any isWord = false) (behind : gaps rest = gap :: later) :
    gaps (marks ++ rest) = (marks ++ gap) :: later := by
  induction marks with
  | nil => exact behind
  | cons c marks inductionHypothesis =>
    obtain ⟨mark, others⟩ := Bool.or_eq_false_iff.1 outside
    rw [List.cons_append, gaps, if_pos (by simp [mark]), inductionHypothesis others]
    rfl

/-- A text without words is one gap. -/
theorem gaps_of_marks {marks : Text} (outside : marks.any isWord = false) :
    gaps marks = [marks] := by
  have alone : gaps (marks ++ []) = [marks ++ []] := gaps_append_of_marks outside rfl
  rwa [List.append_nil] at alone

/-- Inside a word there is no gap. -/
theorem gaps_append_of_isName {name rest : Text} (word : IsName name)
    (ends : rest.head?.any isWord = false) : gaps (name ++ rest) = [] :: gaps rest := by
  obtain ⟨filled, letters⟩ := word
  induction name with
  | nil => exact absurd rfl filled
  | cons c name inductionHypothesis =>
    obtain ⟨letter, others⟩ := List.forall_mem_cons.1 letters
    rw [List.cons_append, gaps, if_neg (by simp [letter])]
    cases name with
    | nil => rw [List.nil_append, if_neg (by simp [ends])]
    | cons d name =>
      have next : isWord d = true := others d List.mem_cons_self
      rw [if_pos (by simpa using next)]
      exact inductionHypothesis (List.cons_ne_nil d name) others

/-- The first gap ends in front of the first word. -/
theorem gaps_of_first_word {front name rest : Text} (outside : front.any isWord = false)
    (word : IsName name) (ends : rest.head?.any isWord = false) :
    gaps (front ++ name ++ rest) = front :: gaps rest := by
  have first := gaps_append_of_marks outside (gaps_append_of_isName word ends)
  rwa [← List.append_assoc, List.append_nil] at first

/-- What holds no word character ends every word in front of it. -/
theorem head?_any_of_marks {marks : Text} (outside : marks.any isWord = false) :
    marks.head?.any isWord = false := by
  cases marks with
  | nil => rfl
  | cons c marks => exact (Bool.or_eq_false_iff.1 outside).1

/-- One word leaves two gaps. -/
theorem gaps_of_one_word {front name back : Text} (outsideFront : front.any isWord = false)
    (word : IsName name) (outsideBack : back.any isWord = false) :
    gaps (front ++ name ++ back) = [front, back] := by
  rw [gaps_of_first_word outsideFront word (head?_any_of_marks outsideBack),
    gaps_of_marks outsideBack]

/-- Two words that something stands between leave three gaps. -/
theorem gaps_of_two_words {front name between format back : Text}
    (outsideFront : front.any isWord = false) (word : IsName name)
    (apart : between ≠ []) (outsideBetween : between.any isWord = false)
    (formatWord : IsName format) (outsideBack : back.any isWord = false) :
    gaps (front ++ name ++ (between ++ format) ++ back) = [front, between, back] := by
  have ends : (between ++ format ++ back).head?.any isWord = false := by
    obtain ⟨c, others, rfl⟩ := List.exists_cons_of_ne_nil apart
    exact (Bool.or_eq_false_iff.1 outsideBetween).1
  rw [List.append_assoc, gaps_of_first_word outsideFront word ends,
    gaps_of_one_word outsideBetween formatWord outsideBack]

/-! ## Texts with known gaps -/

/-- A text is one gap, or its first gap ends in front of a word and the later gaps are those
of what stands behind that word. -/
theorem gaps_cases (text : Text) :
    gaps text = [text] ∨
      ∃ front name rest, IsName name ∧ text = front ++ name ++ rest ∧
        gaps text = front :: gaps rest := by
  have outside : (text.takeWhile (!isWord ·)).any isWord = false := by
    rw [List.any_eq_false]
    intro c member
    simpa using List.all_eq_true.1 List.all_takeWhile c member
  have split : text.takeWhile (!isWord ·) ++ text.dropWhile (!isWord ·) = text :=
    List.takeWhile_append_dropWhile
  have stops := stops_dropWhile (!isWord ·) text
  cases behind : text.dropWhile (!isWord ·) with
  | nil =>
    rw [behind, List.append_nil] at split
    rw [split] at outside
    exact Or.inl (gaps_of_marks outside)
  | cons c others =>
    right
    have letter : isWord c = true := by simpa [behind] using stops
    have word : IsName ((c :: others).takeWhile isWord) :=
      Reference.isName_takeWhile (by simp [letter])
    have whole : text = text.takeWhile (!isWord ·) ++ (c :: others).takeWhile isWord ++
        (c :: others).dropWhile isWord := by
      rw [List.append_assoc, List.takeWhile_append_dropWhile, ← behind, split]
    refine ⟨_, _, _, word, whole, ?_⟩
    have first := gaps_of_first_word outside word (stops_dropWhile isWord (c :: others))
    rwa [← whole] at first

/-- Every text has a gap, behind its last word or without any word. -/
theorem gaps_ne_nil (text : Text) : gaps text ≠ [] := by
  obtain alone | ⟨front, name, rest, -, -, first⟩ := gaps_cases text
  · simp [alone]
  · simp [first]

/-- A text with one gap is that gap. -/
theorem eq_of_gaps_eq_singleton {text gap : Text} (alone : gaps text = [gap]) : text = gap := by
  obtain single | ⟨front, name, rest, -, -, first⟩ := gaps_cases text
  · rw [single] at alone
    exact List.singleton_inj.1 alone
  · rw [first] at alone
    exact absurd (List.cons.inj alone).2 (gaps_ne_nil rest)

/-- Between the first gap of a text and the next one stands a word. -/
theorem exists_word_of_gaps {text gap next : Text} {later : List Text}
    (several : gaps text = gap :: next :: later) :
    ∃ name rest, IsName name ∧ text = gap ++ name ++ rest ∧ gaps rest = next :: later := by
  obtain single | ⟨front, name, rest, word, whole, first⟩ := gaps_cases text
  · rw [single] at several
    exact absurd (List.cons.inj several).2 (List.cons_ne_nil next later).symm
  · rw [first] at several
    obtain ⟨rfl, others⟩ := List.cons.inj several
    exact ⟨name, rest, word, whole, others⟩

/-- A text with two gaps has one word, between them. -/
theorem exists_one_word_of_gaps {text front back : Text} (two : gaps text = [front, back]) :
    ∃ name, IsName name ∧ text = front ++ name ++ back := by
  obtain ⟨name, rest, word, whole, last⟩ := exists_word_of_gaps two
  obtain rfl := eq_of_gaps_eq_singleton last
  exact ⟨name, word, whole⟩

/-- A text with three gaps has two words, between them. -/
theorem exists_two_words_of_gaps {text front between back : Text}
    (three : gaps text = [front, between, back]) :
    ∃ name format, IsName name ∧ IsName format ∧
      text = front ++ name ++ (between ++ format) ++ back := by
  obtain ⟨name, rest, word, whole, others⟩ := exists_word_of_gaps three
  obtain ⟨format, formatWord, rfl⟩ := exists_one_word_of_gaps others
  rw [← List.append_assoc] at whole
  exact ⟨name, format, word, formatWord, whole⟩

end Text

/-! ## The gaps of references -/

namespace Reference

/-- The gaps of the five spellings of a reference. -/
def frames : List (List Text) :=
  [ [['$'], []],
    [['$', '{'], ['}']],
    [['$', '{'], [':'], ['}']],
    [['[', '['], [']', ']']],
    [['[', '['], [':'], [']', ']']]]

/-- However a reference is spelled, its gaps are those of the spelling. -/
theorem gaps_of_spells {name text : Text} (word : IsName name) (spelled : Spells name text) :
    Text.gaps text ∈ frames := by
  cases spelled with
  | bare =>
    change Text.gaps (['$'] ++ name) ∈ frames
    rw [← List.append_nil (['$'] ++ name), Text.gaps_of_one_word (by decide) word (by decide)]
    decide
  | braced =>
    change Text.gaps (['$', '{'] ++ name ++ ['}']) ∈ frames
    rw [Text.gaps_of_one_word (by decide) word (by decide)]
    decide
  | @bracedFormat format isFormat =>
    change Text.gaps (['$', '{'] ++ name ++ ([':'] ++ format) ++ ['}']) ∈ frames
    rw [Text.gaps_of_two_words (by decide) word (by decide) (by decide) isFormat (by decide)]
    decide
  | bracketed =>
    change Text.gaps (['[', '['] ++ name ++ [']', ']']) ∈ frames
    rw [Text.gaps_of_one_word (by decide) word (by decide)]
    decide
  | @bracketedFormat format isFormat =>
    change Text.gaps (['[', '['] ++ name ++ ([':'] ++ format) ++ [']', ']']) ∈ frames
    rw [Text.gaps_of_two_words (by decide) word (by decide) (by decide) isFormat (by decide)]
    decide

/-- A text with the gaps of a spelling is a reference. -/
theorem exists_spells_of_gaps {text : Text} (framed : Text.gaps text ∈ frames) :
    ∃ name, IsName name ∧ Spells name text := by
  simp only [frames, List.mem_cons, List.not_mem_nil, or_false] at framed
  -- One case for each spelling, in the order of the frames.
  rcases framed with bare | braced | bracedFormat | bracketed | bracketedFormat
  · obtain ⟨name, word, rfl⟩ := Text.exists_one_word_of_gaps bare
    rw [List.append_nil]
    exact ⟨name, word, .bare⟩
  · obtain ⟨name, word, rfl⟩ := Text.exists_one_word_of_gaps braced
    exact ⟨name, word, .braced⟩
  · obtain ⟨name, format, word, isFormat, rfl⟩ := Text.exists_two_words_of_gaps bracedFormat
    exact ⟨name, word, .bracedFormat isFormat⟩
  · obtain ⟨name, word, rfl⟩ := Text.exists_one_word_of_gaps bracketed
    exact ⟨name, word, .bracketed⟩
  · obtain ⟨name, format, word, isFormat, rfl⟩ := Text.exists_two_words_of_gaps bracketedFormat
    exact ⟨name, word, .bracketedFormat isFormat⟩

/-- A text is a reference exactly if its gaps are those of a spelling. -/
theorem exists_spells_iff_gaps {text : Text} :
    (∃ name, IsName name ∧ Spells name text) ↔ Text.gaps text ∈ frames := by
  constructor
  · rintro ⟨name, word, spelled⟩
    exact gaps_of_spells word spelled
  · exact exists_spells_of_gaps

end Reference

/-! ## References with blanks around them -/

/-- A text refers to the variable of a name if it is a spelling of a reference to the name,
with blanks in front of it and behind it or without. -/
structure RefersTo (text name : Text) : Prop where
  isName : IsName name
  spelled : ∃ front reference back, text = front ++ reference ++ back ∧
    front.all Text.isBlank = true ∧ back.all Text.isBlank = true ∧ Spells name reference

/-- A name has no blank in it. -/
theorem IsName.not_blank {name : Text} (word : IsName name) :
    ∀ c ∈ name, Text.isBlank c = false := by
  intro c member
  cases blank : Text.isBlank c with
  | false => rfl
  | true =>
    have outside := Text.isWord_of_isBlank blank
    rw [word.2 c member] at outside
    cases outside

/-- A reference neither starts nor ends with a blank. -/
theorem Spells.solid {name text : Text} (word : IsName name) (spelled : Spells name text) :
    Solid Text.isBlank text := by
  have brace : Ends Text.isBlank ['}'] := ⟨[], '}', rfl, by decide⟩
  have bracket : Ends Text.isBlank [']', ']'] := ⟨[']'], ']', rfl, by decide⟩
  cases spelled with
  | bare =>
    have letters := Solid.of_forall word.1 word.not_blank
    exact ⟨⟨'$', name, rfl, by decide⟩, letters.ends.append ['$']⟩
  | braced => exact ⟨⟨'$', _, rfl, by decide⟩, brace.append _⟩
  | bracedFormat isFormat => exact ⟨⟨'$', _, rfl, by decide⟩, brace.append _⟩
  | bracketed => exact ⟨⟨'[', _, rfl, by decide⟩, bracket.append _⟩
  | bracketedFormat isFormat => exact ⟨⟨'[', _, rfl, by decide⟩, bracket.append _⟩

/-- A text refers to a variable exactly if it is a reference once it is trimmed. -/
theorem refersTo_iff {text name : Text} :
    RefersTo text name ↔ IsName name ∧ Spells name (Text.trim text) := by
  constructor
  · rintro ⟨word, front, reference, back, rfl, blankFront, blankBack, spelled⟩
    have trimmed : Text.trim (front ++ reference ++ back) = reference :=
      strip_of_solid blankFront (spelled.solid word) blankBack
    rw [trimmed]
    exact ⟨word, spelled⟩
  · rintro ⟨word, spelled⟩
    -- Trimming takes off nothing but blanks.
    obtain ⟨front, back, whole, blankFront, blankBack⟩ := strip_split Text.isBlank text
    exact ⟨word, front, Text.trim text, back, whole, blankFront, blankBack, spelled⟩

/-- The name that is found in a text is the one that the text refers to. -/
theorem variableName?_eq_some_iff {text name : Text} :
    variableName? text = some name ↔ RefersTo text name := by
  rw [refersTo_iff]
  exact Reference.name?_eq_some_iff

/-- A text refers to one variable at most. -/
theorem RefersTo.unique {text name other : Text} (refers : RefersTo text name)
    (alsoRefers : RefersTo text other) : other = name := by
  have found := variableName?_eq_some_iff.2 refers
  rw [variableName?_eq_some_iff.2 alsoRefers] at found
  exact Option.some.inj found

/-- In every text the name is found that the text refers to, blanks around the reference
apart. A name is found exactly if the text refers to one, and to no other; and none is found
exactly if the gaps between the words of the text are those of no spelling. -/
theorem variableName?_recognises (text : Text) :
    (∀ name, variableName? text = some name ↔ RefersTo text name) ∧
      (∀ name, RefersTo text name ↔ IsName name ∧ Spells name (Text.trim text)) ∧
      ((variableName? text).isSome = true ↔ ∃! name, RefersTo text name) ∧
      (variableName? text = none ↔ Text.gaps (Text.trim text) ∉ Reference.frames) := by
  have found (name : Text) : variableName? text = some name ↔ RefersTo text name :=
    variableName?_eq_some_iff
  refine ⟨found, fun name => refersTo_iff, ?_, ?_⟩
  · rw [Option.isSome_iff_exists]
    constructor
    · rintro ⟨name, named⟩
      have refers := (found name).1 named
      exact ⟨name, refers, fun other alsoRefers => refers.unique alsoRefers⟩
    · rintro ⟨name, refers, -⟩
      exact ⟨name, (found name).2 refers⟩
  · rw [← Reference.exists_spells_iff_gaps, Option.eq_none_iff_forall_ne_some, not_exists]
    exact forall_congr' fun name => not_congr ((found name).trans refersTo_iff)

/-- Texts that miss being a reference to the variable `size`. -/
def nearMisses : List String :=
  [ "size", "$\x7bsize", "$size\x7d", "[[size]", "[size]]", "[[size\x7d\x7d", "$\x7bsize]]", "$",
    "$\x7b\x7d", "[[]]", "$\x7bsize:\x7d", "[[:csv]]", "$\x7bsize:csv:raw\x7d", "$\x7bsize\x7d.x",
    "$size of", "$\x7b size\x7d", "[[size\n]]", "$$size"]

/-- The name of a bracketed reference with a format and blanks around it is found, and in no
near miss is there a name. -/
theorem variableName?_recognises_nearMisses :
    variableName? "\t[[größe:csv]]\n" = some "größe".toList ∧
      (∃! name, RefersTo "\t[[größe:csv]]\n" name) ∧
      ∀ text ∈ nearMisses, variableName? text = none := by
  have isName : IsName "größe".toList := ⟨by decide, List.all_eq_true.1 (by decide +kernel)⟩
  have isFormat : IsName "csv".toList := ⟨by decide, List.all_eq_true.1 (by decide)⟩
  have refers : RefersTo "\t[[größe:csv]]\n" "größe" :=
    ⟨isName, "\t", _, "\n", by decide, by decide, by decide, .bracketedFormat isFormat⟩
  have missed : ∀ text ∈ nearMisses, Text.gaps (Text.trim text) ∉ Reference.frames := by
    decide +kernel
  obtain ⟨named, -, once, -⟩ := variableName?_recognises "\t[[größe:csv]]\n"
  have found := (named "größe").2 refers
  refine ⟨found, once.1 (by rw [found]; rfl), fun text member => ?_⟩
  exact (variableName?_recognises text).2.2.2.2 (missed text member)

end QueryMacros
