import QueryMacros.Data.Toml.Value

/-!
# Reading TOML

A document is a sequence of statements, each on a line of its own: the header of
a table, the header of one more table in a list, or a key with its value. A value
belongs to the table of the last header before it. A byte order mark at the front
is passed over.
-/
namespace QueryMacros.Toml

open Text (Reading)
open Text.Reading (ahead literal mark repeated)

/-- A statement of a document. -/
inductive Statement where
  | table (key : Key)
  | listItem (key : Key)
  | entry (key : Key) (data : Data)

/-- Takes a statement. -/
def statement : Reading Statement := do
  match ← get with
  | '[' :: '[' :: rest =>
      set rest
      blanks
      let key ← key
      Text.Reading.literal [']', ']']
      return .listItem key
  | '[' :: rest =>
      set rest
      blanks
      let key ← key
      mark ']'
      return .table key
  | _ =>
      let (key, data) ← entry blanks (value depthLimit)
      return .entry key data

/-- Takes the statements of a document. -/
def statements : Reading (List Statement) :=
  repeated do
    gap
    if (← get).isEmpty then return none
    let statement ← statement
    lineEnd
    return some statement

/-- A document as far as it has been read: its entries, and the path to the table
of the last header. -/
structure Draft where
  document : Entries
  table : List Text

/-- Adds a statement to a document. -/
def Draft.add (draft : Draft) : Statement → Option Draft
  | .table key => (defineTable key draft.document).map (⟨·, key.names⟩)
  | .listItem key => (appendTable key draft.document).map (⟨·, key.names⟩)
  | .entry key data => (addWithin draft.table key data draft.document).map (⟨·, draft.table⟩)

/-- A document without the byte order mark in front of it. -/
def withoutMark : Text → Text
  | '\uFEFF' :: rest => rest
  | text => text

/-- The data that a document holds, always a record. -/
def read? (text : Text) : Option Data := do
  let statements ← statements.whole? (withoutMark text)
  let draft ← statements.foldlM Draft.add ⟨[], []⟩
  return .record (fieldsOf draft.document)

end QueryMacros.Toml
