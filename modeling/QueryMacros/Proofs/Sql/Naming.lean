import QueryMacros.Proofs.Metadata.Levels
import QueryMacros.Proofs.Sql.Tables

/-!
# The table that a query names

A query may name its table with or without the database, and each of the two names with or
without quotes. Marks may follow at once, subqueries may come first. Whatever is chosen, the
table that is read is the name without quotes, and the provider takes it apart again where
it was put together: the columns that are looked up are those of the named table in the
named database, or in the default one.
-/
namespace QueryMacros.Sql

/-! ## Spellings -/

/-- A character that stands inside the token of a table: it does not end the token, it is
not taken off its end, and no subquery starts with it. -/
def isInner (c : Char) : Bool := !(Text.isBlank c || isClosing c || c == '(')

/-- A character of a name. It needs no quotes and is not mistaken for any. -/
def isPlain (c : Char) : Bool := isInner c && c != '.' && !isIdentifierQuote c

/-- An inner character is not blank, so it does not end a token. -/
theorem isBlank_of_isInner {c : Char} (inner : isInner c = true) : Text.isBlank c = false := by
  simp only [isInner, Bool.not_eq_true', Bool.or_eq_false_iff] at inner
  exact inner.1.1

/-- An inner character is not one that is taken off at the end of a token. -/
theorem isClosing_of_isInner {c : Char} (inner : isInner c = true) : isClosing c = false := by
  simp only [isInner, Bool.not_eq_true', Bool.or_eq_false_iff] at inner
  exact inner.1.2

/-- The quotes of names are inner characters. -/
theorem isInner_of_isIdentifierQuote {c : Char} (quote : isIdentifierQuote c = true) :
    isInner c = true := by
  simp only [isIdentifierQuote, Bool.or_eq_true, beq_iff_eq] at quote
  rcases quote with rfl | rfl <;> decide

/-- How a name is written. -/
inductive Quoting where
  | bare
  | backticks
  | doubleQuotes
deriving DecidableEq, Repr

/-- What stands on either side of a name. -/
def Quoting.marks : Quoting → Text
  | .bare => []
  | .backticks => ['\x60']
  | .doubleQuotes => ['"']

/-- Nothing but quotes stands around a name. -/
theorem Quoting.isIdentifierQuote_marks (quoting : Quoting) :
    quoting.marks.all isIdentifierQuote = true := by
  cases quoting <;> rfl

/-- A name, and how it is written. -/
structure Part where
  name : Text
  quoting : Quoting
  filled : name ≠ []
  plain : name.all isPlain = true

namespace Part

variable (part : Part)

/-- The name as it is written. -/
def written : Text := part.quoting.marks ++ part.name ++ part.quoting.marks

/-- A name has inner characters only. -/
theorem isInner_of_mem_name {c : Char} (member : c ∈ part.name) : isInner c = true := by
  have plain := List.all_eq_true.1 part.plain c member
  simp only [isPlain, Bool.and_eq_true] at plain
  exact plain.1.1

/-- A name has no quotes of its own. -/
theorem isIdentifierQuote_of_mem_name {c : Char} (member : c ∈ part.name) :
    isIdentifierQuote c = false := by
  have plain := List.all_eq_true.1 part.plain c member
  simp only [isPlain, Bool.and_eq_true, Bool.not_eq_true'] at plain
  exact plain.2

/-- A single name has no dot. -/
theorem dot_not_mem_name : '.' ∉ part.name := by
  intro member
  exact absurd (List.all_eq_true.1 part.plain '.' member) (by decide)

/-- What is written is the name and quotes. -/
theorem mem_name_or_isIdentifierQuote {c : Char} (member : c ∈ part.written) :
    c ∈ part.name ∨ isIdentifierQuote c = true := by
  have mark := List.all_eq_true.1 part.quoting.isIdentifierQuote_marks c
  rcases List.mem_append.1 member with front | behind
  · rcases List.mem_append.1 front with before | inName
    · exact .inr (mark before)
    · exact .inl inName
  · exact .inr (mark behind)

/-- A single name is written with inner characters only. -/
theorem isInner_of_mem_written {c : Char} (member : c ∈ part.written) : isInner c = true := by
  rcases part.mem_name_or_isIdentifierQuote member with inName | quote
  · exact part.isInner_of_mem_name inName
  · exact isInner_of_isIdentifierQuote quote

/-- A single name is written without a dot. -/
theorem dot_not_mem_written : '.' ∉ part.written := by
  intro member
  rcases part.mem_name_or_isIdentifierQuote member with inName | quote
  · exact part.dot_not_mem_name inName
  · exact absurd quote (by decide)

/-- A single name is not written as nothing. -/
theorem written_ne_nil : part.written ≠ [] := by
  simp [written, part.filled]

/-- The quotes come off, and nothing else. -/
theorem trimWhile_written : Text.trimWhile isIdentifierQuote part.written = part.name := by
  have solid : Solid isIdentifierQuote part.name :=
    Solid.of_forall part.filled fun _ => part.isIdentifierQuote_of_mem_name
  have marks := part.quoting.isIdentifierQuote_marks
  exact strip_of_solid marks solid marks

end Part

/-- A table as a query names it: with its database or without. -/
structure TableName where
  database : Option Part
  table : Part

namespace TableName

/-- The parts of the name as `spell` has each, joined by a dot. -/
def spelled (spell : Part → Text) (named : TableName) : Text :=
  match named.database with
  | some database => spell database ++ '.' :: spell named.table
  | none => spell named.table

/-- The name as it is written. -/
def written : TableName → Text := spelled Part.written

/-- The name without quotes. -/
def name : TableName → Text := spelled Part.name

/-- The database that is meant, where `preset` is the one of tables named without any. -/
def databaseOr (named : TableName) (preset : Text) : Text :=
  (named.database.map Part.name).getD preset

variable (named : TableName)

/-- The name of a table is written with inner characters only, its dot included. -/
theorem isInner_of_mem_written {c : Char} (member : c ∈ named.written) : isInner c = true := by
  obtain ⟨database, table⟩ := named
  cases database with
  | none => exact table.isInner_of_mem_written member
  | some database =>
    rcases List.mem_append.1 member with inDatabase | behind
    · exact database.isInner_of_mem_written inDatabase
    · rcases List.mem_cons.1 behind with rfl | inTable
      · decide
      · exact table.isInner_of_mem_written inTable

/-- The name of a table is not written as nothing. -/
theorem written_ne_nil : named.written ≠ [] := by
  obtain ⟨database, table⟩ := named
  cases database with
  | none => exact table.written_ne_nil
  | some database => simp [written, spelled]

/-- The name of a table is not empty. -/
theorem name_ne_nil : named.name ≠ [] := by
  obtain ⟨database, table⟩ := named
  cases database with
  | none => exact table.filled
  | some database => simp [name, spelled]

/-- A name is freed of the marks behind it and of its quotes. No inner character is taken
off with the marks, and the one dot that is left to split at is that between two parts. -/
theorem cleanIdentifier_written {closing : Text} (closed : closing.all isClosing = true) :
    cleanIdentifier (named.written ++ closing) = named.name := by
  have kept : ∀ c ∈ named.written, isClosing c = false := by
    intro c member
    exact isClosing_of_isInner (named.isInner_of_mem_written member)
  rw [cleanIdentifier, Text.dropEndWhile_append kept closed]
  obtain ⟨database, table⟩ := named
  cases database with
  | none =>
    have parts : Text.splitOn '.' table.written = [table.written] :=
      Text.splitOn_of_not_mem table.dot_not_mem_written
    change List.intercalate ['.'] ((Text.splitOn '.' table.written).map _) = table.name
    rw [parts, List.map_singleton, table.trimWhile_written]
    exact List.intercalate_singleton
  | some database =>
    have parts : Text.splitOn '.' (database.written ++ '.' :: table.written) =
        [database.written, table.written] := by
      rw [Text.splitOn_append_cons database.dot_not_mem_written,
        Text.splitOn_of_not_mem table.dot_not_mem_written]
    change List.intercalate ['.'] ((Text.splitOn '.'
      (database.written ++ '.' :: table.written)).map _) = database.name ++ '.' :: table.name
    rw [parts, List.map_cons, List.map_singleton, database.trimWhile_written,
      table.trimWhile_written]
    simp [List.intercalate]

/-- The last dot of the name is the one between its parts. -/
theorem resolve_name {σ : Type} (provider : Metadata.Provider σ) :
    provider.resolve named.name =
      (named.databaseOr provider.defaultDatabase, named.table.name) := by
  obtain ⟨database, table⟩ := named
  cases database with
  | none => exact provider.resolve_unqualified table.dot_not_mem_name
  | some database => exact provider.resolve_qualified table.dot_not_mem_name

end TableName

/-! ## Subqueries in front -/

/-- The text is empty or ends in a blank, and wherever the word and a blank stand in it, it
goes on with a subquery. -/
structure OpensSubqueries (front : Text) : Prop where
  rested : Rested front
  opened : ∀ before word behind, front = before ++ word ++ behind →
    Text.wordEdge before.getLast? word.head? = true →
    Text.equalsIgnoringAsciiCase word fromWord = true →
    behind.head?.any Text.isBlank = true → (Text.trimStart behind).head? = some '('

/-- The places to look at are those in the text. -/
theorem opensSubqueries_iff {front : Text} : OpensSubqueries front ↔ Rested front ∧
    ∀ place < front.length,
      Text.wordEdge (front.take place).getLast? (front.drop place).head? = true →
      Text.equalsIgnoringAsciiCase ((front.drop place).take fromWord.length) fromWord = true →
      ((front.drop place).drop fromWord.length).head?.any Text.isBlank = true →
      (Text.trimStart ((front.drop place).drop fromWord.length)).head? = some '(' := by
  constructor
  · rintro ⟨rested, opened⟩
    refine ⟨rested, ?_⟩
    intro place within edge
    apply opened (front.take place)
    · rw [List.append_assoc, List.take_append_drop, List.take_append_drop]
    · simpa [List.head?_take, fromWord] using edge
  · rintro ⟨rested, opened⟩
    refine ⟨rested, ?_⟩
    rintro before word behind rfl edge named
    have four : word.length = fromWord.length := length_of_named named
    obtain ⟨c, others, rfl, -⟩ := exists_f_of_named named
    have next := opened before.length (by simp)
    rw [List.append_assoc, List.take_left, List.drop_left, List.take_left' four,
      List.drop_left' four] at next
    exact next edge named

instance (front : Text) : Decidable (OpensSubqueries front) :=
  have : Decidable (Rested front) := inferInstanceAs (Decidable (_ = true))
  decidable_of_iff _ opensSubqueries_iff.symm

section Subqueries

variable {front : Text} (opens : OpensSubqueries front)
include opens

/-- A token of such a text opens a subquery. -/
theorem OpensSubqueries.head?_token {before left token rest : Text}
    (whole : front = before ++ left)
    (found : fromToken? before.getLast? left = some (token, rest)) : token.head? = some '(' := by
  obtain ⟨word, blanks, split, clause⟩ := fromToken?_eq_some_iff.1 found
  obtain ⟨c, others, rfl⟩ := List.exists_cons_of_ne_nil clause.filled
  obtain ⟨d, blanksBehind, rfl⟩ := List.exists_cons_of_ne_nil clause.apart
  have blank := List.all_eq_true.1 clause.blank d List.mem_cons_self
  have solid : ¬ Text.isBlank c = true := by simp [clause.solid c List.mem_cons_self]
  have next := opens.opened before word (d :: blanksBehind ++ (c :: others ++ rest))
    (by rw [whole, split, List.append_assoc]) clause.edge clause.named blank
  rw [Text.trimStart, dropWhile_append_of_all clause.blank, List.cons_append,
    List.dropWhile_cons_of_neg solid] at next
  exact next

/-- The word does not stand in such a text with its token behind the end. -/
theorem OpensSubqueries.not_crossing {before left more token rest : Text}
    (whole : front = before ++ left) (filled : left ≠ [])
    (missing : fromToken? before.getLast? left = none) :
    fromToken? before.getLast? (left ++ more) ≠ some (token, rest) := by
  intro crossing
  have rested : Rested left := Rested.of_append (whole ▸ opens.rested)
  obtain ⟨word, blanks, split, clause⟩ := fromToken?_eq_some_iff.1 crossing
  obtain ⟨back, stops⟩ :=
    prefix_of_crossing rested missing (by rw [split, List.append_assoc]) clause
  have lettersOnly : ∀ c ∈ word, Text.isBlank c = false :=
    fun _ => isBlank_of_mem_named clause.named
  rcases List.append_eq_append_iff.1 stops with ⟨part, inWord, -⟩ | ⟨part, behindWord, inBlanks⟩
  · -- The text ends in the word, which has no blanks.
    apply filled
    apply @Rested.eq_nil [] left rested
    intro c member
    exact lettersOnly c (inWord ▸ List.mem_append_left part member)
  · -- The text ends in the blanks behind the word, so no subquery is opened.
    have blank : part.all Text.isBlank = true := by
      have all := clause.blank
      rw [inBlanks, List.all_append, Bool.and_eq_true] at all
      exact all.1
    cases part with
    | nil =>
      rw [List.append_nil] at behindWord
      exact filled (@Rested.eq_nil [] left rested (behindWord ▸ lettersOnly))
    | cons d blanksBehind =>
      have next := opens.opened before word (d :: blanksBehind)
        (by rw [whole, behindWord, List.append_assoc]) clause.edge clause.named
        (List.all_eq_true.1 blank d List.mem_cons_self)
      have nothing := dropWhile_append_of_all blank []
      rw [List.append_nil] at nothing
      rw [Text.trimStart, nothing] at next
      cases next

/-- Behind such a text, the tables are read as if the text behind stood alone. The tokens in
front all open subqueries. The induction is on what is left of the text in front, of which
a token leaves less. -/
theorem OpensSubqueries.exists_fromTokens (more : Text) {before left : Text}
    (whole : front = before ++ left) :
    ∃ tokens, (∀ token ∈ tokens, token.head? = some '(') ∧
      fromTokens before.getLast? (left ++ more) = tokens ++ fromTokens front.getLast? more := by
  induction size : left.length using Nat.strongRecOn generalizing before left with
  | ind length inductionHypothesis =>
    cases found : fromToken? before.getLast? left with
    | some pair =>
      -- The token opens a subquery, and the search goes on behind it as it would in front.
      obtain ⟨token, rest⟩ := pair
      have rested : Rested left := Rested.of_append (whole ▸ opens.rested)
      have longer := fromToken?_append_of_some rested found more
      obtain ⟨word, blanks, split, clause⟩ := fromToken?_eq_some_iff.1 found
      have last : (before ++ word ++ blanks ++ token).getLast? = token.getLast? := by
        rw [List.getLast?_append, List.getLast?_eq_some_getLast clause.filled]
        rfl
      have wholeBehind : front = before ++ word ++ blanks ++ token ++ rest := by
        rw [whole, split]
        simp
      obtain ⟨tokens, opening, later⟩ :=
        inductionHypothesis rest.length (size ▸ fromToken?_length found) wholeBehind rfl
      refine ⟨token :: tokens, ?_, ?_⟩
      · intro other member
        rcases List.mem_cons.1 member with rfl | inTokens
        · exact opens.head?_token whole found
        · exact opening other inTokens
      · rw [fromTokens_of_some longer, ← last, later]
        rfl
    | none =>
      cases left with
      | nil =>
        rw [List.append_nil] at whole
        exact ⟨[], by simp, by rw [whole]; rfl⟩
      | cons c left =>
        have wholeBehind : front = before ++ [c] ++ left := by
          rw [whole, List.append_assoc, List.singleton_append]
        obtain ⟨tokens, opening, later⟩ :=
          inductionHypothesis left.length (by rw [← size]; simp) wholeBehind rfl
        -- No table is named here in the longer text either, since no clause reaches across the end.
        have missing : fromToken? before.getLast? (c :: left ++ more) = none := by
          cases crossing : fromToken? before.getLast? (c :: left ++ more) with
          | none => rfl
          | some pair =>
            exact absurd crossing
              (opens.not_crossing whole (List.cons_ne_nil c left) found)
        refine ⟨tokens, opening, ?_⟩
        rw [List.cons_append] at missing ⊢
        rw [fromTokens_cons_of_none missing, ← later, List.getLast?_concat]

end Subqueries

/-! ## The table that is read -/

/-- What is taken off at the end of a token is not blank. -/
theorem isBlank_of_isClosing {c : Char} (closing : isClosing c = true) :
    Text.isBlank c = false := by
  simp only [isClosing, Bool.or_eq_true, beq_iff_eq] at closing
  rcases closing with (rfl | rfl) | rfl <;> decide

/-- A written name and the marks behind it are a token that opens no subquery. -/
theorem TableName.head?_written (table : TableName) (closing : Text) :
    (table.written ++ closing).head? ≠ some '(' := by
  obtain ⟨c, others, split⟩ := List.exists_cons_of_ne_nil table.written_ne_nil
  have inner := table.isInner_of_mem_written (split ▸ List.mem_cons_self)
  rw [split]
  intro opens
  obtain rfl : c = '(' := Option.some.inj opens
  exact absurd inner (by decide)

section Reading

variable {front word blanks closing rest : Text} (table : TableName)
  (named : Text.equalsIgnoringAsciiCase word fromWord = true) (apart : blanks ≠ [])
  (blank : blanks.all Text.isBlank = true) (closed : closing.all isClosing = true)
  (ended : rest.head?.all Text.isBlank = true)
include named apart blank closed ended

/-- Behind a rested text, the word in any case, blanks, a written name and marks are a
clause, if the text ends there or a blank follows. -/
theorem TableName.clause_written (rested : Rested front) :
    Clause front.getLast? word blanks (table.written ++ closing) rest := by
  refine ⟨rested.wordEdge named, named, apart, blank, ?_, ?_, ended⟩
  · exact List.append_ne_nil_of_left_ne_nil table.written_ne_nil closing
  · intro c member
    rcases List.mem_append.1 member with inName | behind
    · exact isBlank_of_isInner (table.isInner_of_mem_written inName)
    · exact isBlank_of_isClosing (List.all_eq_true.1 closed c behind)

/-- Behind a text whose every clause opens a subquery, it is the table that is read. -/
theorem TableName.extractTable_written (opens : OpensSubqueries front) :
    extractTable (front ++ (word ++ (blanks ++ (table.written ++ closing ++ rest)))) =
      some table.name := by
  have clause := table.clause_written named apart blank closed ended opens.rested
  obtain ⟨tokens, opening, read⟩ := opens.exists_fromTokens
    (word ++ (blanks ++ (table.written ++ closing ++ rest))) (List.nil_append front).symm
  have skipped : tokens.find? (·.head? != some '(') = none := by
    rw [List.find?_eq_none]
    intro token member
    simp [opening token member]
  have first : (fromTokens none (front ++ (word ++ (blanks ++
      (table.written ++ closing ++ rest))))).find? (·.head? != some '(') =
        some (table.written ++ closing) := by
    rw [List.getLast?_nil] at read
    rw [read, fromTokens_of_some (fromToken?_eq_some_iff.2 ⟨word, blanks, rfl, clause⟩),
      List.find?_append, skipped, Option.none_or, List.find?_cons_of_pos]
    exact bne_iff_ne.2 (table.head?_written closing)
  have present : table.name.isEmpty = false := by simpa using table.name_ne_nil
  simp only [extractTable, first, Option.bind_eq_bind, Option.bind_some,
    table.cleanIdentifier_written closed, present, Bool.false_eq_true, ↓reduceIte]

end Reading

/-- Behind a text whose every clause opens a subquery, the first name is the table that is
read, however the name is written; and whatever has been asked of a provider before, the
keys of the table that is read are the columns of the named table in the named database,
or else in the default one. Unless these are remembered, they are what is looked up, and
nothing else is. The tokens in front all open subqueries, so the name is the one that is
read, and it resolves to the table that is meant. -/
theorem extractTable_keys {σ : Type} {front word blanks closing rest : Text} (table : TableName)
    (opens : OpensSubqueries front) (named : Text.equalsIgnoringAsciiCase word fromWord = true)
    (apart : blanks ≠ []) (blank : blanks.all Text.isBlank = true)
    (closed : closing.all isClosing = true) (ended : rest.head?.all Text.isBlank = true)
    (provider : Metadata.Provider σ) (state : σ) (events : List (Metadata.Event σ)) :
    let here := ((Metadata.Reached.start state).run provider events).here
    let database := table.databaseOr provider.defaultDatabase
    extractTable (front ++ word ++ blanks ++ table.written ++ closing ++ rest) =
      some table.name ∧
    (provider.keys table.name here).1 =
      (provider.columns database table.table.name here).1.map
        (List.map Metadata.Column.toKey) ∧
    (provider.watch (.keys table.name) here).calls.map (·.query) =
      if (here.memory.columns.lookup (database, table.table.name)).isSome then []
      else [.columns database table.table.name] := by
  intro here database
  have layered : Metadata.Layered provider here.memory :=
    Metadata.Reached.layered_run Metadata.Layered.empty events
  have resolved : provider.resolve table.name = (database, table.table.name) :=
    table.resolve_name provider
  have queried : provider.columnsOf table.name = .columns database table.table.name := by
    rw [Metadata.Provider.columnsOf, resolved]
  have keys := provider.keys_eq_map_columns layered table.name
  have calls := provider.calls_keys layered table.name
  rw [resolved] at keys
  rw [queried] at calls
  refine ⟨?_, keys, calls⟩
  have read := table.extractTable_written named apart blank closed ended opens
  simpa only [List.append_assoc] using read

/-- A name that begins with the word, subqueries inside each other, quotes of both kinds and
marks do not lead astray. -/
theorem extractTable_keys_nested :
    let front : Text := "SELECT fromage FROM (SELECT 2 fRoM\n\t(SELECT 3 "
    let provider : Metadata.Provider Metadata.Schema := ⟨Metadata.Schema.source, "default"⟩
    OpensSubqueries front ∧
      extractTable (front ++ "From `logs`.\"events\")); -- from".toList) =
        some "logs.events".toList ∧
      (provider.watch (.keys "logs.events") (.start .empty)).calls.map (·.query) =
        [.columns "logs" "events"] := by
  intro front provider
  let table : TableName :=
    ⟨some ⟨"logs", .backticks, by decide, by decide +kernel⟩,
      ⟨"events", .doubleQuotes, by decide, by decide +kernel⟩⟩
  have opens : OpensSubqueries front := by decide +kernel
  have named : Text.equalsIgnoringAsciiCase "From".toList fromWord = true := by decide +kernel
  have blank : " ".toList.all Text.isBlank = true := by decide +kernel
  have closed : "));".toList.all isClosing = true := by decide
  have ended : " -- from".toList.head?.all Text.isBlank = true := by decide +kernel
  have whole : front ++ "From `logs`.\"events\")); -- from".toList =
      front ++ "From".toList ++ " ".toList ++ table.written ++ "));".toList ++
        " -- from".toList := by
    decide +kernel
  obtain ⟨read, -, calls⟩ :=
    extractTable_keys table opens named (by decide) blank closed ended provider .empty []
  exact ⟨opens, whole ▸ read, calls⟩

end QueryMacros.Sql
