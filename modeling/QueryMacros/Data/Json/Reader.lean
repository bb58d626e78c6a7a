import QueryMacros.Data.Basic
import QueryMacros.Data.Json.Token

/-!
# Reading JSON

The reader goes over the tokens once. What it has read of the lists and records
that are still open lies on a stack of frames, so nesting has no limit, and the
state says what may come next. A text is read if its tokens lead from the wish
for one value to a complete one.
-/
namespace QueryMacros.Json

/-- A list or record that is still open, with what has been read of it, the last
item first. A record waits for the value of a name. -/
inductive Frame where
  | list (items : List Data)
  | record (fields : List (Option Text × Data)) (name : Option Text)

/-- What a reader waits for. -/
inductive State where
  /-- Any value. -/
  | value (stack : List Frame)
  /-- The first item of a list, or its end. -/
  | firstItem (stack : List Frame)
  /-- A comma or the end of a list. -/
  | afterItem (items : List Data) (stack : List Frame)
  /-- The first name of a record, or its end. -/
  | firstName (stack : List Frame)
  /-- The name that has to follow a comma. -/
  | name (fields : List (Option Text × Data)) (stack : List Frame)
  /-- The colon behind a name. -/
  | colon (fields : List (Option Text × Data)) (name : Option Text) (stack : List Frame)
  /-- A comma or the end of a record. -/
  | afterField (fields : List (Option Text × Data)) (stack : List Frame)
  /-- Nothing more. -/
  | complete (data : Data)

/-- Puts a value where the innermost open list or record expects it. -/
def place (data : Data) : List Frame → State
  | [] => .complete data
  | .list items :: stack => .afterItem (data :: items) stack
  | .record fields name :: stack => .afterField ((name, data) :: fields) stack

/-- Takes the first token of a value. -/
def beginValue (stack : List Frame) : Token → Option State
  | .null => some (place .null stack)
  | .boolean value => some (place (.boolean value) stack)
  | .whole value => some (place (.whole value) stack)
  | .number literal => some (place (.number literal) stack)
  | .text (some value) => some (place (.text value) stack)
  | .text none => some (place .malformed stack)
  | .openList => some (.firstItem stack)
  | .openRecord => some (.firstName stack)
  | _ => none

/-- Takes one token. -/
def step : State → Token → Option State
  | .value stack, token => beginValue stack token
  | .firstItem stack, .closeList => some (place (.list []) stack)
  | .firstItem stack, token => beginValue (.list [] :: stack) token
  | .afterItem items stack, .comma => some (.value (.list items :: stack))
  | .afterItem items stack, .closeList => some (place (.list items.reverse) stack)
  | .firstName stack, .closeRecord => some (place (.record []) stack)
  | .firstName stack, .text name => some (.colon [] name stack)
  | .name fields stack, .text name => some (.colon fields name stack)
  | .colon fields name stack, .colon => some (.value (.record fields name :: stack))
  | .afterField fields stack, .comma => some (.name fields stack)
  | .afterField fields stack, .closeRecord => some (place (.record fields.reverse) stack)
  | _, _ => none

/-- Reads a JSON text as a tree of data. -/
def read? (text : Text) : Option Data := do
  let tokens ← tokens? text
  match ← tokens.foldlM step (.value []) with
  | .complete data => some data
  | _ => none

end QueryMacros.Json
