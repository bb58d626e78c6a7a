import QueryMacros.Data.Basic
import QueryMacros.Data.Json.Token

/-!
# Writing JSON

Data is written without blanks. In a quoted text the quote, the backslash and the
control characters are escaped, the common ones of the latter by a letter; every
other character stands for itself.
-/
namespace QueryMacros.Json

/-- One character inside quotes. -/
def writeCharacter (c : Char) : Text :=
  if c = '"' then ['\\', '"']
  else if c = '\\' then ['\\', '\\']
  else if c = '\x08' then ['\\', 'b']
  else if c = '\x0c' then ['\\', 'f']
  else if c = '\n' then ['\\', 'n']
  else if c = '\r' then ['\\', 'r']
  else if c = '\t' then ['\\', 't']
  else if c.toNat < 0x20 then
    ['\\', 'u', '0', '0', Radix.digit (c.toNat / 16), Radix.digit (c.toNat % 16)]
  else [c]

/-- A text between quotes. -/
def writeText (text : Text) : Text := '"' :: text.flatMap writeCharacter ++ ['"']

mutual

/-- A tree of data as JSON. What was malformed or out of range is written as null,
and a malformed name as an empty one. -/
def write : Data → Text
  | .null | .malformed | .outOfRange => "null"
  | .boolean true => "true"
  | .boolean false => "false"
  | .whole value => Numeral.writeInt value
  | .number literal => literal
  | .text value => writeText value
  | .list items => '[' :: writeItems items ++ [']']
  | .record fields => '\x7b' :: writeFields fields ++ ['\x7d']

/-- The items of a list, joined by commas. -/
def writeItems : List Data → Text
  | [] => []
  | [item] => write item
  | item :: items => write item ++ ',' :: writeItems items

/-- The fields of a record, joined by commas. -/
def writeFields : List (Option Text × Data) → Text
  | [] => []
  | [(name, value)] => writeText (name.getD []) ++ ':' :: write value
  | (name, value) :: fields =>
      writeText (name.getD []) ++ ':' :: write value ++ ',' :: writeFields fields

end

end QueryMacros.Json
