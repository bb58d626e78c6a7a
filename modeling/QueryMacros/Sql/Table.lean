import QueryMacros.Text.Character

/-!
# The table of a query

A query names its table behind the word `FROM`, in letters of either case, as the
next run of characters that are not blank. A run that opens a parenthesis starts
a subquery and is passed over; the search goes on behind it. The name is freed
of punctuation at its end, and each part of it between dots of the quotes of
identifiers around it.

The text is not analysed any further. In particular, the word is found inside
comments and literals as well.
-/
namespace QueryMacros.Sql

/-- The word in front of a table. -/
def fromWord : Text := "FROM"

/-- What follows the word `FROM` at the front of a text: the next run of
characters that are not blank, and the text behind it. -/
def fromToken? (previous : Option Char) (text : Text) : Option (Text × Text) :=
  let behind := text.drop fromWord.length
  let token := (behind.dropWhile Text.isBlank).takeWhile fun c => !Text.isBlank c
  if Text.wordEdge previous text.head? &&
      Text.equalsIgnoringAsciiCase (text.take fromWord.length) fromWord &&
      behind.head?.any Text.isBlank && !token.isEmpty then
    some (token, (behind.dropWhile Text.isBlank).dropWhile fun c => !Text.isBlank c)
  else none

/-- What follows a found word is shorter than the text it was found in. -/
theorem fromToken?_length {previous : Option Char} {text token rest : Text}
    (found : fromToken? previous text = some (token, rest)) : rest.length < text.length := by
  unfold fromToken? at found
  simp only [Bool.and_eq_true, Option.ite_none_right_eq_some, Option.some.injEq,
    Prod.mk.injEq] at found
  obtain ⟨⟨⟨_, blankBehind⟩, _⟩, _, rfl⟩ := found
  have afterBlanks :=
    (List.dropWhile_suffix (l := text.drop fromWord.length) Text.isBlank).length_le
  have afterToken :=
    (List.dropWhile_suffix (l := (text.drop fromWord.length).dropWhile Text.isBlank)
      fun c => !Text.isBlank c).length_le
  have nonempty : 0 < (text.drop fromWord.length).length := by
    cases remaining : text.drop fromWord.length with
    | nil => simp [remaining] at blankBehind
    | cons => simp
  have word : fromWord.length = 4 := by decide
  rw [List.length_drop] at nonempty afterBlanks
  omega

/-- The runs behind every `FROM` of a text, in order. The search goes on behind
each run. -/
def fromTokens (previous : Option Char) (text : Text) : List Text :=
  match _found : fromToken? previous text with
  | some (token, rest) => token :: fromTokens token.getLast? rest
  | none =>
      match text with
      | [] => []
      | c :: rest => fromTokens (some c) rest
termination_by text.length
decreasing_by
  · exact fromToken?_length ‹_›
  · simp

/-- The marks that may follow the name of a table at once. -/
def isClosing (c : Char) : Bool := c == ';' || c == ',' || c == ')'

/-- The quotes of identifiers. -/
def isIdentifierQuote (c : Char) : Bool := c == '\x60' || c == '"'

/-- A table as it is named, without quotes and closing marks. -/
def cleanIdentifier (token : Text) : Text :=
  List.intercalate ['.']
    ((Text.splitOn '.' (Text.dropEndWhile isClosing token)).map (Text.trimWhile isIdentifierQuote))

/-- The table that a query reads from, if it names one. -/
def extractTable (sql : Text) : Option Text := do
  let token ← (fromTokens none sql).find? fun token => token.head? != some '('
  let table := cleanIdentifier token
  if table.isEmpty then none else some table

end QueryMacros.Sql
