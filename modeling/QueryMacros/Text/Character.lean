import QueryMacros.Text.Basic
import QueryMacros.Text.Unicode.Addition
import QueryMacros.Text.Unicode.Alphabetic
import QueryMacros.Text.Unicode.DecimalNumber
import QueryMacros.Text.Unicode.GraphemeExtend
import QueryMacros.Text.Unicode.Mark
import QueryMacros.Text.Unicode.Number
import QueryMacros.Text.Unicode.Unprintable

/-!
# Classes of characters

Three classes decide how texts are cut. A *blank* is a character of the property
White_Space; blanks are trimmed and separate words. A *word character* belongs
to names: it is alphabetic, a mark, a decimal digit, a connector or a joiner. An
*alphanumeric* character is alphabetic or a number of any kind. The last two
differ: a superscript two is alphanumeric and no word character, a combining
accent the other way round. They also differ in age: word characters are those of
Unicode 16, all other classes those of Unicode 17.

Characters below U+0080 are answered without the tables, so that a statement
about a concrete name is settled by evaluation.
-/
namespace QueryMacros.Text

/-- Whether one of the inclusive ranges holds the character. -/
def inRanges (ranges : List (Nat × Nat)) (c : Char) : Bool :=
  ranges.any fun (first, last) => first ≤ c.toNat && c.toNat ≤ last

/-- The code points of the property White_Space, as inclusive ranges. -/
def whiteSpace : List (Nat × Nat) :=
  [ (0x9, 0xD), (0x20, 0x20), (0x85, 0x85), (0xA0, 0xA0), (0x1680, 0x1680), (0x2000, 0x200A),
    (0x2028, 0x2029), (0x202F, 0x202F), (0x205F, 0x205F), (0x3000, 0x3000)]

/-- The code points of the general category Connector_Punctuation. -/
def connector : List (Nat × Nat) :=
  [ (0x5F, 0x5F), (0x203F, 0x2040), (0x2054, 0x2054), (0xFE33, 0xFE34), (0xFE4D, 0xFE4F),
    (0xFF3F, 0xFF3F)]

/-- The two characters of the property Join_Control. -/
def joinControl : List (Nat × Nat) := [(0x200C, 0x200D)]

/-- A blank is a character of the property White_Space. -/
def isBlank (c : Char) : Bool := inRanges whiteSpace c

/-- Whether a character has a property that names are made of: it is alphabetic, a
mark, a decimal digit, a connector such as the underscore, or a joiner. -/
def hasWordProperty (c : Char) : Bool :=
  inRanges Unicode.alphabetic c || inRanges Unicode.mark c ||
    inRanges Unicode.decimalNumber c || inRanges connector c || inRanges joinControl c

/-- A character that can stand in a name. What Unicode 17 added cannot. No older
character gained or lost the property with that version, so these are the word
characters of Unicode 16. -/
def isWord (c : Char) : Bool :=
  if c.toNat < 0x80 then c.isAlphanum || c == '_'
  else hasWordProperty c && !inRanges Unicode.addition c

/-- An alphabetic character or a number of any kind. -/
def isAlphanumeric (c : Char) : Bool :=
  if c.toNat < 0x80 then c.isAlphanum
  else inRanges Unicode.alphabetic c || inRanges Unicode.number c

/-- The fillers of the Korean script: letters without a visible form. -/
def filler : List (Nat × Nat) := [(0x115F, 0x1160), (0x3164, 0x3164), (0xFFA0, 0xFFA0)]

/-- The two halfwidth sound marks of the Japanese script. Unicode counts them as
extending the character before them, yet each takes a place of its own. -/
def soundMark : List (Nat × Nat) := [(0xFF9E, 0xFF9F)]

/-- A character that has a form of its own. Of the separators this is the plain
space alone. -/
def isPrintable (c : Char) : Bool :=
  c == ' ' || !(inRanges Unicode.unprintable c || inRanges filler c)

/-- A character that joins the one before it when it is printed. -/
def isJoining (c : Char) : Bool :=
  inRanges Unicode.graphemeExtend c && !inRanges soundMark c

/-- Whether two neighbouring places lie on different sides of the edge of a
word. Beyond either end of a text there is no word. -/
def wordEdge (before after : Option Char) : Bool :=
  before.any isWord != after.any isWord

/-- Removes the blanks at the start of a text. -/
def trimStart (text : Text) : Text := text.dropWhile isBlank

/-- Removes the blanks at the end of a text. -/
def trimEnd (text : Text) : Text := dropEndWhile isBlank text

/-- Removes the blanks at both ends of a text. -/
def trim (text : Text) : Text := trimEnd (trimStart text)

/-- Splits a text around its first blank. -/
def splitBlank? : Text → Option (Text × Text)
  | [] => none
  | c :: rest =>
      if isBlank c then some ([], rest)
      else (splitBlank? rest).map fun (before, after) => (c :: before, after)

/-- The lower-case form of a character of the basic Latin alphabet; every other
character is its own. -/
def foldAscii (c : Char) : Char := c.toLower

/-- Whether two texts agree when letters of the basic Latin alphabet are compared
without regard to case. -/
def equalsIgnoringAsciiCase (left right : Text) : Bool :=
  left.map foldAscii == right.map foldAscii

end QueryMacros.Text
