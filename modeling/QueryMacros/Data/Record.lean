import QueryMacros.Data.Basic

/-!
# Reading records

A record with known fields is written in one of two ways: with the names of the
fields, in any order, or as the bare list of their values in the order of the
fields. With names, those that are not known are passed over, and a known one
may come once only. Without names, values may be left out at the end.

Whether a list may hold more values than there are fields depends on the format
the data came from. Where it may, nobody looks at those values, so they need not
even be such as can be passed over.
-/
namespace QueryMacros.Data

/-- How a format treats a list that is read as a record. -/
inductive Surplus where
  /-- A list that is longer than the record has fields is refused. -/
  | refused
  /-- What a list holds beyond the fields of the record is not looked at. -/
  | ignored
deriving DecidableEq, Repr

/-- The value of a field, which is absent if the record does not name it. There
is no answer if the record names it twice. -/
def field? (fields : List (Option Text × Data)) (name : Text) : Option (Option Data) :=
  match fields.filter fun (written, _) => written == some name with
  | [] => some none
  | [(_, value)] => some (some value)
  | _ => none

/-- The values of the fields of a record, in the order of their names. -/
def fields? (surplus : Surplus) (names : List Text) : Data → Option (List (Option Data))
  | .record fields =>
      let isWellFormed := fun (written, value) =>
        written.any fun name => names.contains name || isPassable value
      if fields.all isWellFormed then names.mapM (field? fields) else none
  | .list items =>
      if items.length ≤ names.length ∨ surplus = .ignored then
        some (names.mapIdx fun index _ => items[index]?)
      else none
  | _ => none

/-- Decodes a field that has to be there. -/
def required {α : Type} (decode : Data → Option α) (value : Option Data) : Option α :=
  value.bind decode

/-- Decodes a field that has a value of its own if it is absent. -/
def withDefault {α : Type} (default : α) (decode : Data → Option α) : Option Data → Option α
  | some value => decode value
  | none => some default

end QueryMacros.Data
