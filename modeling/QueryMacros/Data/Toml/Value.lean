import QueryMacros.Data.Toml.Quoted
import QueryMacros.Data.Toml.Scalar
import QueryMacros.Data.Toml.Table

/-!
# Keys and values of TOML

A key is one name or several with dots between them, up to eighty; a name is bare
or quoted. A value is quoted, unquoted, a list, or an inline table. Lists and
inline tables may run over several lines and may end in a comma. In an inline
table a line may also end on either side of an equals sign, but not inside a key.
Lists and inline tables may be nested to a depth of eighty.
-/
namespace QueryMacros.Toml

open Text (Reading)
open Text.Reading (ahead mark repeated run)

/-- A character of a bare name. -/
def isNameCharacter (c : Char) : Bool := c.isAlphanum || c == '_' || c == '-'

/-- Takes a name. -/
def name : Reading Text := do
  let bare ← run isNameCharacter
  if bare.isEmpty then quotedLine else return bare

/-- The number of names a key may have, and the depth to which brackets may be
nested. -/
def depthLimit : Nat := 80

/-- Takes a key, and the blanks behind it. -/
def key : Reading Key := do
  let first ← name
  let others ← repeated do
    blanks
    if (← ahead) = some '.' then
      mark '.'
      blanks
      return some (← name)
    else return none
  let names := first :: others
  if depthLimit < names.length then failure
  return ⟨names.dropLast, names.getLastD []⟩

/-- Takes the items of a list or a table up to its closing bracket, with commas
between them. -/
def items {α : Type} (closing : Char) (item : Reading α) : Reading (List α) :=
  repeated do
    gap
    if (← ahead) = some closing then
      mark closing
      return none
    else
      let value ← item
      gap
      if (← ahead) = some ',' then mark ','
      else if (← ahead) ≠ some closing then failure
      return some value

/-- Takes a key and its value, with what may stand on both sides of the equals
sign between them. -/
def entry (between : Reading Unit) (value : Reading Data) : Reading (Key × Data) := do
  let key ← key
  between
  mark '='
  between
  return (key, ← value)

/-- Takes a value without brackets. -/
def plainValue : Reading Data := do
  match ← ahead with
  | some '"' | some '\'' => return .text (← quoted)
  | _ => scalar

/-- Takes a value in which brackets are nested up to a depth. -/
def value : Nat → Reading Data
  | 0 => plainValue
  | depth + 1 => do
      match ← ahead with
      | some '[' =>
          mark '['
          return .list (← items ']' (value depth))
      | some '\x7b' =>
          mark '\x7b'
          let entries ← items '\x7d' (entry gap (value depth))
          let table ← entries.foldlM
            (fun table (key, data) => (addValue key data .defined table : Option Entries)) []
          return .record (fieldsOf table)
      | _ => plainValue

end QueryMacros.Toml
