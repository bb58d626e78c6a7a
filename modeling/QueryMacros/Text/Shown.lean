import QueryMacros.Text.Character

/-!
# Texts as they are shown

`shown` writes a text between double quotes so that every character can be told
apart on a terminal. Five characters have a short escape. A character that would
join the one before it, or that has no printed form, is written as its code
point. All others stand for themselves, the single quote among them.
-/
namespace QueryMacros.Text

/-- The digits of a number in base sixteen, in lower case. -/
def hexadecimal (value : Nat) : Text := Nat.toDigits 16 value

/-- One character as it is shown inside double quotes. -/
def shownCharacter (c : Char) : Text :=
  if c = '\x00' then "\\0"
  else if c = '\t' then "\\t"
  else if c = '\r' then "\\r"
  else if c = '\n' then "\\n"
  else if c = '\\' then "\\\\"
  else if c = '"' then "\\\""
  else if isJoining c || !isPrintable c then
    "\\u\x7b" ++ hexadecimal c.toNat ++ "\x7d"
  else [c]

/-- A text between double quotes, with what cannot be shown escaped. -/
def shown (text : Text) : Text := '"' :: text.flatMap shownCharacter ++ ['"']

end QueryMacros.Text
