import QueryMacros.Text.Reading

/-!
# Gaps in TOML

Spaces and tabs are the blanks of a line. A line ends with a line feed, in front
of which a carriage return may stand; a carriage return alone has no meaning. A
comment reaches to the end of its line and holds no control character. Where a
value may continue on further lines, all three together form a gap.
-/
namespace QueryMacros.Toml

open Text (Reading)

/-- A blank of a line. -/
def isBlank (c : Char) : Bool := c == ' ' || c == '\t'

/-- A character that may stand in a comment or a quoted text: any but a control
character other than the tab. -/
def isPermitted (c : Char) : Bool := c == '\t' || (0x20 ≤ c.toNat && c.toNat != 0x7F)

/-- What follows the gap at the front of a text, inside a comment or outside. A
control character in a comment ends the gap in front of it, where nothing
accepts it. -/
def behindGap : Bool → Text → Text
  | _, [] => []
  | _, '\n' :: rest => behindGap false rest
  | _, '\r' :: '\n' :: rest => behindGap false rest
  | true, c :: rest => if isPermitted c then behindGap true rest else c :: rest
  | false, c :: rest =>
      if isBlank c then behindGap false rest
      else if c = '#' then behindGap true rest
      else c :: rest

/-- Passes over blanks, line ends and comments. -/
def gap : Reading Unit := modify (behindGap false)

/-- Passes over the blanks of a line. -/
def blanks : Reading Unit := modify (List.dropWhile isBlank)

/-- Whether a text is at its end or at the end of a line. -/
def atLineEnd : Text → Bool
  | [] => true
  | '\n' :: _ => true
  | '\r' :: '\n' :: _ => true
  | _ => false

/-- Passes over what may follow a statement on its line. The end of the line is
left where it is. -/
def lineEnd : Reading Unit := do
  blanks
  if (← Reading.ahead) = some '#' then
    modify (List.dropWhile isPermitted)
  if !atLineEnd (← get) then failure

end QueryMacros.Toml
