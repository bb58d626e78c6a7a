import QueryMacros.Data.Record
import QueryMacros.Metadata.Schema

/-!
# Metadata as data

Each kind of metadata is written as a record. A table of a schema may be
described without its database, which is then the default one, and without its
columns; a schema may be described without tables. The type of a key is left out
where it is not known.
-/
namespace QueryMacros.Metadata

open Data

/-- A database as data. -/
def Database.toData (database : Database) : Data := ofFields [("name", .text database.name)]

/-- The database that a record describes. -/
def Database.ofData? (surplus : Surplus) (data : Data) : Option Database := do
  match ← fields? surplus ["name"] data with
  | [name] => return ⟨← required toText? name⟩
  | _ => none

/-- A table as data. -/
def Table.toData (table : Table) : Data :=
  ofFields [("database", .text table.database), ("name", .text table.name)]

/-- The table that a record describes. -/
def Table.ofData? (surplus : Surplus) (data : Data) : Option Table := do
  match ← fields? surplus ["database", "name"] data with
  | [database, name] => return ⟨← required toText? database, ← required toText? name⟩
  | _ => none

/-- A column as data. -/
def Column.toData (column : Column) : Data :=
  ofFields [("name", .text column.name), ("type", .text column.type)]

/-- The column that a record describes. -/
def Column.ofData? (surplus : Surplus) (data : Data) : Option Column := do
  match ← fields? surplus ["name", "type"] data with
  | [name, type] => return ⟨← required toText? name, ← required toText? type⟩
  | _ => none

/-- A key as data. -/
def TableKey.toData (key : TableKey) : Data :=
  ofFields (("value", .text key.value) ::
    match key.type with
    | some type => [("type", .text type)]
    | none => [])

/-- The key that a record describes. -/
def TableKey.ofData? (surplus : Surplus) (data : Data) : Option TableKey := do
  match ← fields? surplus ["value", "type"] data with
  | [value, type] =>
      return ⟨← required toText? value, ← withDefault none (toOption? toText?) type⟩
  | _ => none

/-- A table of a schema as data. -/
def TableSchema.toData (table : TableSchema) : Data :=
  ofFields
    [("database", .text table.database), ("name", .text table.name),
      ("columns", ofList Column.toData table.columns)]

/-- The table of a schema that a record describes. -/
def TableSchema.ofData? (surplus : Surplus) (data : Data) : Option TableSchema := do
  match ← fields? surplus ["database", "name", "columns"] data with
  | [database, name, columns] =>
      return {
        database := ← withDefault defaultDatabase toText? database
        name := ← required toText? name
        columns := ← withDefault [] (toList? (Column.ofData? surplus)) columns }
  | _ => none

/-- The description of a schema as data. -/
def SchemaFile.toData (file : SchemaFile) : Data :=
  ofFields [("tables", ofList TableSchema.toData file.tables)]

/-- The description of a schema that a record holds. -/
def SchemaFile.ofData? (surplus : Surplus) (data : Data) : Option SchemaFile := do
  match ← fields? surplus ["tables"] data with
  | [tables] => return ⟨← withDefault [] (toList? (TableSchema.ofData? surplus)) tables⟩
  | _ => none

end QueryMacros.Metadata
