import QueryMacros.Workspace

/-!
# Metadata

What is known of the tables that queries read: the databases, the tables in
them, and the columns of a table with their types. A table key is a column as the
ad-hoc filters see it. A lookup of any of these can fail, and its failure tells
apart what was not found from a source that gave no answer.
-/
namespace QueryMacros.Metadata

/-- A database. -/
structure Database where
  name : Text
deriving DecidableEq, Repr

/-- A table of a database. -/
structure Table where
  database : Text
  name : Text
deriving DecidableEq, Repr

/-- A column and its type. -/
structure Column where
  name : Text
  type : Text
deriving DecidableEq, Repr

/-- A column that filters may name, with its type if that is known. -/
structure TableKey where
  value : Text
  type : Option Text
deriving DecidableEq, Repr

/-- The name of a table with its database in front. -/
def Table.qualifiedName (table : Table) : Text := table.database ++ '.' :: table.name

/-- A column as a key of its table. -/
def Column.toKey (column : Column) : TableKey := ⟨column.name, some column.type⟩

/-- Why a lookup failed. -/
inductive Fault where
  | databaseNotFound (database : Text)
  | tableNotFound (database table : Text)
  /-- The source answered with an error of its own. -/
  | source (reason : Text)
  | unreadable (fault : FileFault)
  | malformed
deriving DecidableEq, Repr

/-- The wording of a fault. The reason why a schema is malformed is left out. -/
def Fault.message : Fault → Text
  | .databaseNotFound database => "database not found: " ++ database
  | .tableNotFound database table => "table not found: " ++ database ++ '.' :: table
  | .source reason => "metadata source error: " ++ reason
  | .unreadable fault => "failed to read schema file: " ++ fault.message
  | .malformed => "failed to parse schema file:"

/-- Splits a qualified name at its last dot. An unqualified name has no parts. -/
def splitQualified? (name : Text) : Option (Text × Text) := Text.splitLast? '.' name

/-- A name is unqualified just when it has no dot. -/
theorem splitQualified?_eq_none_iff {name : Text} : splitQualified? name = none ↔ '.' ∉ name :=
  Text.splitLast?_eq_none_iff

/-- A name falls apart at its last dot and at no other. -/
theorem splitQualified?_eq_some_iff {name qualifier rest : Text} :
    splitQualified? name = some (qualifier, rest) ↔
      name = qualifier ++ '.' :: rest ∧ '.' ∉ rest :=
  Text.splitLast?_eq_some_iff

/-- A lookup that may change the state it works on, and may fail. The state that
it leaves counts also after a failure. -/
abbrev Lookup (σ : Type) := ExceptT Fault (StateM σ)

/-- A source of metadata over a state of its own. -/
structure Source (σ : Type) where
  databases : Lookup σ (List Database)
  tables (database : Text) : Lookup σ (List Table)
  columns (database table : Text) : Lookup σ (List Column)

end QueryMacros.Metadata
