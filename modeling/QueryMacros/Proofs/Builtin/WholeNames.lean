import QueryMacros.Proofs.Builtin.Callee
import QueryMacros.Proofs.Macro.Positions
import QueryMacros.Proofs.Text.Trim

/-!
# Names are read whole

The name of a macro is a dollar and a word. A reader who comes upon a dollar takes in all
the word characters behind it, and what was read is the name or is not. The search does
the same, although it only compares the characters of its name and looks at the one
behind: a name is found where it is all that a reader reads. So a name is never found in
a longer one, two names never claim the same position, and none begins inside another,
whatever order their macros come in.
-/
namespace QueryMacros.Macro

/-- The name of a macro: a dollar, and behind it a word of one character or more. -/
structure WordName where
  word : Text
  filled : word ≠ []
  letters : word.all Text.isWord = true

/-- The characters of a name. -/
def WordName.text (name : WordName) : Text := '$' :: name.word

/-- The name that a text begins with: a dollar, and all the word characters behind it. -/
def leadingName? : Text → Option Text
  | [] => none
  | c :: behind => if c = '$' then some ('$' :: behind.takeWhile Text.isWord) else none

/-- At a byte offset of a text a dollar stands, and the name is what is read there. -/
def ReadAt (name text : Text) (offset : Nat) : Prop :=
  ∃ before after, text = before ++ after ∧ offset = Text.utf8Length before ∧
    leadingName? after = some name

namespace WordName

variable (name : WordName)

/-- A name has a character at least, its dollar. -/
theorem text_ne_nil : name.text ≠ [] := List.cons_ne_nil _ _

/-- A name is determined by its characters. -/
theorem text_injective {name other : WordName} (same : name.text = other.text) : name = other := by
  obtain ⟨word, _, _⟩ := name
  obtain ⟨otherWord, _, _⟩ := other
  obtain rfl : word = otherWord := (List.cons.inj same).2
  rfl

/-- The word of a name has no dollar, which is no word character. -/
theorem dollar_not_mem : '$' ∉ name.word := by
  intro member
  have letter := List.all_eq_true.1 name.letters '$' member
  revert letter
  decide

/-- Behind a name there is an edge exactly if the word does not go on. -/
theorem wordEdge_iff (behind : Text) :
    Text.wordEdge name.text.getLast? behind.head? = true ↔
      behind.head?.any Text.isWord = false := by
  have last : name.text.getLast? = some (name.word.getLast name.filled) := by
    rw [text, List.getLast?_cons, List.getLast?_eq_some_getLast name.filled, Option.getD_some]
  have letter := List.all_eq_true.1 name.letters _ (List.getLast_mem name.filled)
  rw [Text.wordEdge, last, Option.any_some, letter]
  cases behind.head?.any Text.isWord <;> decide

/-- A whole word is taken from a text exactly if the text begins with it and it does not go
on. -/
theorem takeWhile_eq_iff {text : Text} :
    text.takeWhile Text.isWord = name.word ↔
      ∃ behind, text = name.word ++ behind ∧ behind.head?.any Text.isWord = false := by
  constructor
  · intro taken
    refine ⟨text.dropWhile Text.isWord, ?_, stops_dropWhile Text.isWord text⟩
    rw [← taken, List.takeWhile_append_dropWhile]
  · rintro ⟨behind, rfl, stops⟩
    exact takeWhile_append_of_stops (List.all_eq_true.1 name.letters) stops

/-- A name is what a reader reads exactly if the text begins with it and the word does not
go on. -/
theorem leadingName?_eq_some_iff {text : Text} :
    leadingName? text = some name.text ↔
      ∃ behind, text = name.text ++ behind ∧ behind.head?.any Text.isWord = false := by
  cases text with
  | nil =>
    constructor
    · intro read
      cases read
    · rintro ⟨behind, split, -⟩
      cases split
  | cons c text =>
    by_cases dollar : c = '$'
    · subst dollar
      simp [leadingName?, WordName.text, name.takeWhile_eq_iff]
    · simp [leadingName?, WordName.text, dollar]

/-- A name stands where it is read. -/
theorem standsAt_iff_readAt {text : Text} {place : Nat} :
    StandsAt name.text text place ↔ ReadAt name.text text place := by
  constructor
  · rintro ⟨before, behind, rfl, rfl, edge⟩
    refine ⟨before, name.text ++ behind, List.append_assoc _ _ _, rfl, ?_⟩
    exact name.leadingName?_eq_some_iff.2 ⟨behind, rfl, (name.wordEdge_iff behind).1 edge⟩
  · rintro ⟨before, after, rfl, rfl, read⟩
    obtain ⟨behind, rfl, stops⟩ := name.leadingName?_eq_some_iff.1 read
    exact ⟨before, behind, (List.append_assoc _ _ _).symm, rfl, (name.wordEdge_iff behind).2 stops⟩

variable {name} {other : WordName} {text : Text} {place otherPlace : Nat}

/-- Where one name stands no other one does. -/
theorem eq_of_standsAt (stands : StandsAt name.text text place)
    (otherStands : StandsAt other.text text place) : other = name := by
  obtain ⟨before, after, rfl, rfl, read⟩ := name.standsAt_iff_readAt.1 stands
  obtain ⟨otherBefore, otherAfter, split, fewer, otherRead⟩ :=
    other.standsAt_iff_readAt.1 otherStands
  have starts : before <+: before ++ after := List.prefix_append _ _
  have otherStarts : otherBefore <+: before ++ after := split ▸ List.prefix_append _ _
  have inFront := Text.prefix_of_utf8Length_le starts otherStarts (Nat.le_of_eq fewer)
  have behind := Text.prefix_of_utf8Length_le otherStarts starts (Nat.le_of_eq fewer.symm)
  obtain rfl : before = otherBefore := inFront.eq_of_length_le behind.length_le
  obtain rfl := List.append_cancel_left split
  exact text_injective (Option.some.inj (otherRead.symm.trans read))

/-- No name begins inside another one, because a dollar is no part of a word. -/
theorem not_inside_of_standsAt (stands : StandsAt name.text text place)
    (otherStands : StandsAt other.text text otherPlace) (later : place < otherPlace) :
    place + Text.utf8Length name.text ≤ otherPlace := by
  obtain ⟨before, behind, rfl, rfl, -⟩ := stands
  obtain ⟨otherBefore, otherBehind, split, rfl, -⟩ := otherStands
  have starts : before <+: before ++ name.text ++ behind := by
    rw [List.append_assoc]
    exact List.prefix_append _ _
  have otherStarts : otherBefore <+: before ++ name.text ++ behind := by
    rw [split, List.append_assoc]
    exact List.prefix_append _ _
  obtain ⟨between, rfl⟩ := Text.prefix_of_utf8Length_le starts otherStarts (Nat.le_of_lt later)
  have same : name.text ++ behind = between ++ (other.text ++ otherBehind) := by
    simpa [List.append_assoc] using split
  cases between with
  | nil => exact absurd later (by simp)
  | cons c between =>
    have words : name.word ++ behind = between ++ (other.text ++ otherBehind) :=
      (List.cons.inj same).2
    obtain ⟨rfl, -⟩ : '$' = c ∧ _ := List.cons.inj same
    rw [Text.utf8Length_append, Nat.add_le_add_iff_left]
    rcases List.append_eq_append_iff.1 words with ⟨more, rfl, -⟩ | ⟨more, worded, rest⟩
    · -- The other name begins behind the word.
      rw [← List.cons_append, Text.utf8Length_append]
      exact Nat.le_add_right _ _
    · cases more with
      | nil =>
        rw [List.append_nil] at worded
        rw [WordName.text, worded]
      | cons d more =>
        -- The dollar of the other name would be a character of the word.
        obtain ⟨rfl, -⟩ : '$' = d ∧ _ := List.cons.inj rest
        exact absurd (by simp [worded]) name.dollar_not_mem

/-- From an offset up to the end of the text a search ends at the first place, not in front of
the offset, where the name is all that is read behind a dollar, and it finds nothing if there
is no such place. From an offset behind the end it is refused, and finds neither a place nor
nothing. So what is found of two different names never begins at the same place, nor inside
the name found last or first. The names of the built-in macros are of this kind and
different. -/
theorem searchFrom_first_readAt (name : WordName) :
    (∀ sql offset, offset ≤ Text.utf8Length sql →
      searchFrom name.text sql offset = .ok (findAt? name.text sql offset) ∧
      (∀ place, (findAt? name.text sql offset).map (·.start) = some place ↔
        IsLeast {place | offset ≤ place ∧ ReadAt name.text sql place} place) ∧
      (findAt? name.text sql offset = none ↔
        ∀ place, offset ≤ place → ¬ ReadAt name.text sql place)) ∧
    (∀ sql offset, Text.utf8Length sql < offset →
      searchFrom name.text sql offset = .error ⟨offset, Text.utf8Length sql⟩) ∧
    (∀ other : WordName, other ≠ name → ∀ sql offset otherOffset found otherFound,
      searchFrom name.text sql offset = .ok (some found) →
        searchFrom other.text sql otherOffset = .ok (some otherFound) →
          otherFound.start < found.start ∨
            found.start + Text.utf8Length name.text ≤ otherFound.start) ∧
    (Registry.standard : Registry Unit).names.Nodup ∧
    ∀ builtin ∈ (Registry.standard : Registry Unit).names, ∃ other : WordName,
      other.text = builtin := by
  have builtins : ∀ builtin ∈ (Registry.standard : Registry Unit).names,
      builtin.head? = some '$' ∧ builtin.tail ≠ [] ∧ builtin.tail.all Text.isWord = true := by
    decide +kernel
  refine ⟨?_, fun sql offset => searchFrom_of_lt name.text, ?_, by decide +kernel, ?_⟩
  · intro sql offset inText
    have outcome := searchFrom_outcome name.text_ne_nil inText
    simpa only [standsAt_iff_readAt] using outcome
  · intro other different sql offset otherOffset found otherFound search otherSearch
    have stands := standsAt_of_searchFrom name.text_ne_nil search
    have otherStands := standsAt_of_searchFrom other.text_ne_nil otherSearch
    -- Two names at one place are one name, and none stands inside another.
    rcases Nat.lt_trichotomy otherFound.start found.start with earlier | same | later
    · exact Or.inl earlier
    · rw [same] at otherStands
      exact absurd (eq_of_standsAt stands otherStands) different
    · exact Or.inr (not_inside_of_standsAt stands otherStands later)
  · intro builtin member
    obtain ⟨dollar, filled, letters⟩ := builtins builtin member
    obtain ⟨word, rfl⟩ := List.head?_eq_some_iff.1 dollar
    exact ⟨⟨word, filled, letters⟩, rfl⟩

/-- A query with the short name of a filter behind the long one that begins with it. -/
def longAndShort : Text := "$__timeFilter_ms(a), $__timeFilter(b)"

/-- The short name is found behind the long one. Behind the last character of the query nothing
is found, and one byte further no search starts. -/
theorem searchFrom_first_readAt_timeFilter :
    (findAt? "$__timeFilter".toList longAndShort 0).map (·.start) = some 21 ∧
      IsLeast {place | 0 ≤ place ∧ ReadAt "$__timeFilter".toList longAndShort place} 21 ∧
      searchFrom "$__timeFilter_ms".toList longAndShort 0 =
        .ok (some ⟨"$__timeFilter_ms".toList, 0, 19, ["a".toList]⟩) ∧
      (21 < 0 ∨ 0 + Text.utf8Length "$__timeFilter_ms".toList ≤ 21) ∧
      searchFrom "$__timeFilter".toList longAndShort 37 = .ok none ∧
      (∀ place, 37 ≤ place → ¬ ReadAt "$__timeFilter".toList longAndShort place) ∧
      searchFrom "$__timeFilter".toList longAndShort 38 = .error ⟨38, 37⟩ := by
  let short : WordName := ⟨"__timeFilter".toList, by decide, by decide⟩
  let long : WordName := ⟨"__timeFilter_ms".toList, by decide, by decide⟩
  have found : findAt? short.text longAndShort 0 = some ⟨short.text, 21, 37, ["b".toList]⟩ := by
    decide +kernel
  have foundLong : searchFrom long.text longAndShort 0 =
      .ok (some ⟨long.text, 0, 19, ["a".toList]⟩) := by
    decide +kernel
  have nothing : findAt? short.text longAndShort 37 = none := by decide +kernel
  have different : short ≠ long := by
    intro same
    exact absurd (congrArg WordName.word same) (by decide)
  obtain ⟨inText, refused, -, -, -⟩ := short.searchFrom_first_readAt
  obtain ⟨searched, first, -⟩ := inText longAndShort 0 (by decide)
  obtain ⟨searchedLast, -, last⟩ := inText longAndShort 37 (by decide)
  rw [found] at searched
  rw [nothing] at searchedLast
  refine ⟨congrArg _ found, (first 21).1 (by rw [found, Option.map_some]), foundLong, ?_,
    searchedLast, last.1 nothing, refused longAndShort 38 (by decide)⟩
  exact long.searchFrom_first_readAt.2.2.1 short different _ 0 0 _ _ foundLong searched

end WordName

end QueryMacros.Macro
