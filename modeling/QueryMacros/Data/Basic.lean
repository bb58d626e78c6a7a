import QueryMacros.Text.Basic

/-!
# Data

Requests, schemas and settings arrive as trees of plain data, in one of two
formats. This is the common form of both: what a tree holds, without the way it
was written. The fields of a record keep their order, and a name may be there
more than once; it is for the reader of a record to object.
-/
namespace QueryMacros

/-- A tree of plain data. -/
inductive Data where
  | null
  | boolean (value : Bool)
  /-- A number written as an integer. -/
  | whole (value : Int)
  /-- Any other number, as it is written. -/
  | number (literal : Text)
  /-- A number beyond the range of its format. -/
  | outOfRange
  | text (value : Text)
  /-- A text with an escape that stands for no character. -/
  | malformed
  | list (items : List Data)
  /-- Named values. A name is missing if it is malformed. -/
  | record (fields : List (Option Text × Data))

namespace Data

mutual

/-- Whether a tree can be passed over. Even that goes over every value in it, and
fails at a number that is out of range. -/
def isPassable : Data → Bool
  | .outOfRange => false
  | .list items => itemsPassable items
  | .record fields => fieldsPassable fields
  | _ => true

/-- Whether all items of a list can be passed over. -/
def itemsPassable : List Data → Bool
  | [] => true
  | item :: items => item.isPassable && itemsPassable items

/-- Whether the values of all fields can be passed over. -/
def fieldsPassable : List (Option Text × Data) → Bool
  | [] => true
  | (_, value) :: fields => value.isPassable && fieldsPassable fields

end

/-- A record of fields with well-formed names. -/
def ofFields (fields : List (Text × Data)) : Data :=
  .record (fields.map fun (name, value) => (some name, value))

/-- An optional value, which is null if it is absent. -/
def ofOption {α : Type} (encode : α → Data) : Option α → Data
  | some value => encode value
  | none => .null

/-- A list of encoded values. -/
def ofList {α : Type} (encode : α → Data) (values : List α) : Data := .list (values.map encode)

/-- The text that a tree consists of. -/
def toText? : Data → Option Text
  | .text value => some value
  | _ => none

/-- The integer that a tree consists of. -/
def toInt? : Data → Option Int
  | .whole value => some value
  | _ => none

/-- The natural number of 64 bits that a tree consists of. -/
def toWord? : Data → Option Nat
  | .whole value => if 0 ≤ value ∧ value < UInt64.size then some value.toNat else none
  | _ => none

/-- The value that a tree describes, or nothing where it is null. -/
def toOption? {α : Type} (decode : Data → Option α) : Data → Option (Option α)
  | .null => some none
  | data => (decode data).map some

/-- The values that the items of a list describe. -/
def toList? {α : Type} (decode : Data → Option α) : Data → Option (List α)
  | .list items => items.mapM decode
  | _ => none

end Data

end QueryMacros
