import QueryMacros.Metadata.Basic
import QueryMacros.Metadata.Index

/-!
# Schemas

A schema is a fixed description of databases and their tables. Tables are added
one after the other, and a table that is added again replaces the earlier one.
The listings are ordered by name. A database is there once a table of it is.
-/
namespace QueryMacros.Metadata

/-- A table with its columns, as a schema lists it. -/
structure TableSchema where
  database : Text
  name : Text
  columns : List Column
deriving DecidableEq, Repr

/-- The tables of a schema in the order in which they are described. -/
structure SchemaFile where
  tables : List TableSchema
deriving DecidableEq, Repr

/-- The database of a table that is described without one. -/
def defaultDatabase : Text := "default"

/-- The columns of each table of each database. -/
structure Schema where
  databases : Index (Index (List Column))

namespace Schema

/-- The schema without tables. -/
def empty : Schema := ⟨.empty⟩

/-- Adds a table, or replaces the one of its name. -/
def withTable (schema : Schema) (database table : Text) (columns : List Column) : Schema :=
  let tables := (schema.databases.find? database).getD .empty
  ⟨schema.databases.insert database (tables.insert table columns)⟩

/-- The schema that a description lists, later tables replacing earlier ones. -/
def ofFile (file : SchemaFile) : Schema :=
  file.tables.foldl
    (fun schema table => schema.withTable table.database table.name table.columns) empty

/-- The databases in order. -/
def listDatabases (schema : Schema) : List Database :=
  schema.databases.keys.map Database.mk

/-- The tables of a database in order. -/
def listTables (schema : Schema) (database : Text) : Except Fault (List Table) :=
  match schema.databases.find? database with
  | some tables => .ok (tables.keys.map (Table.mk database))
  | none => .error (.databaseNotFound database)

/-- The columns of a table. -/
def listColumns (schema : Schema) (database table : Text) : Except Fault (List Column) :=
  match (schema.databases.find? database).bind (·.find? table) with
  | some columns => .ok columns
  | none => .error (.tableNotFound database table)

/-- The source whose state is a schema. It answers from the schema as it is and
leaves it alone. -/
def source : Source Schema where
  databases := return listDatabases (← get)
  tables database := do ofExcept (listTables (← get) database)
  columns database table := do ofExcept (listColumns (← get) database table)

end Schema

end QueryMacros.Metadata
