import Mathlib.Data.List.Sort
import QueryMacros.Metadata.Schema

/-!
# What a schema lists

A schema is described table by table, in any order and with repetitions. What it answers
depends on the last description of each table alone. The columns of a table are those of
its last description; a database is listed if some description names it; and the tables
that are listed of a database are those whose columns are known. The listings increase
strictly, so nothing is listed twice.

The indexes carry the argument. An index is determined by what is found in it, and so
settings of different keys commute. One more description then changes the answer for its
own table only, and the descriptions of different tables can be given in either order.
-/
namespace QueryMacros

/-! ## Indexes by what is found in them -/

namespace Index

variable {α : Type}

/-- Indexes in which the same is found are the same. -/
theorem eq_of_find?_eq {left right : Index α} (same : ∀ key, left.find? key = right.find? key) :
    left = right := by
  have irreflexive :
      Std.Irrefl fun left right : Text × α => Text.precedes left.1 right.1 = true :=
    ⟨fun entry => by simp [Text.precedes_irrefl]⟩
  have antisymmetric :
      Std.Antisymm fun left right : Text × α => Text.precedes left.1 right.1 = true :=
    ⟨fun left right front back => by
      have cyclic := Text.precedes_trans front back
      rw [Text.precedes_irrefl] at cyclic
      cases cyclic⟩
  have sameEntries : left.entries = right.entries :=
    left.ascending.eq_of_mem_iff right.ascending fun ⟨key, value⟩ => by
      rw [mem_entries_iff, mem_entries_iff, same]
  cases left
  cases right
  cases sameEntries
  rfl

/-- The value that is set last for a key replaces the earlier one. -/
theorem insert_insert (index : Index α) (key : Text) (first last : α) :
    (index.insert key first).insert key last = index.insert key last := by
  refine eq_of_find?_eq fun other => ?_
  by_cases same : other = key
  · subst same
    rw [find?_insert_self, find?_insert_self]
  · rw [find?_insert_of_ne _ _ same, find?_insert_of_ne _ _ same, find?_insert_of_ne _ _ same]

/-- Values for different keys are set in either order. -/
theorem insert_comm (index : Index α) {left right : Text} (leftValue rightValue : α)
    (different : left ≠ right) :
    (index.insert left leftValue).insert right rightValue =
      (index.insert right rightValue).insert left leftValue := by
  refine eq_of_find?_eq fun other => ?_
  by_cases isRight : other = right
  · subst isRight
    rw [find?_insert_self, find?_insert_of_ne _ _ (Ne.symm different), find?_insert_self]
  · rw [find?_insert_of_ne _ _ isRight]
    by_cases isLeft : other = left
    · subst isLeft
      rw [find?_insert_self, find?_insert_self]
    · rw [find?_insert_of_ne _ _ isLeft, find?_insert_of_ne _ _ isLeft,
        find?_insert_of_ne _ _ isRight]

end Index

namespace Metadata

/-- The names of a kind, in strictly increasing order. -/
structure Enumerates (names : List Text) (kind : Text → Prop) : Prop where
  increasing : names.Pairwise (· < ·)
  mem_iff : ∀ name, name ∈ names ↔ kind name

/-- The keys of an index are enumerated. -/
theorem enumerates_keys {α : Type} (index : Index α) :
    Enumerates index.keys fun key => ∃ value, index.find? key = some value where
  increasing :=
    List.pairwise_map.2 (index.ascending.imp fun before => Text.precedes_iff_lt.1 before)
  mem_iff _ := Index.mem_keys_iff

/-- An enumeration lists no name twice. -/
theorem Enumerates.nodup {names : List Text} {kind : Text → Prop}
    (enumerates : Enumerates names kind) : names.Nodup := by
  refine enumerates.increasing.imp fun before => ?_
  rintro rfl
  exact List.lt_irrefl _ before

/-- The database and the name under which a table is described. -/
def TableSchema.address (table : TableSchema) : Text × Text := (table.database, table.name)

namespace Schema

/-! ## One more table -/

/-- The columns that a schema has for a table. -/
def columns? (schema : Schema) (database table : Text) : Option (List Column) :=
  (schema.databases.find? database).bind (·.find? table)

/-- The columns of a table are listed just when the schema has them. -/
theorem listColumns_eq_ok_iff {schema : Schema} {database table : Text} {columns : List Column} :
    schema.listColumns database table = .ok columns ↔
      schema.columns? database table = some columns := by
  rw [listColumns, ← columns?]
  cases schema.columns? database table with
  | some known => simp
  | none => simp

/-- Listing columns fails in one way: the table is not there, and the fault names it. -/
theorem listColumns_eq_error_iff {schema : Schema} {database table : Text} {fault : Fault} :
    schema.listColumns database table = .error fault ↔
      fault = .tableNotFound database table ∧ schema.columns? database table = none := by
  rw [listColumns, ← columns?]
  cases schema.columns? database table with
  | some known => simp
  | none => simp [eq_comm]

variable (schema : Schema)

/-- A table that is added has the columns that it was added with. -/
theorem columns?_withTable_self (database table : Text) (columns : List Column) :
    (schema.withTable database table columns).columns? database table = some columns := by
  simp only [columns?, withTable, Index.find?_insert_self, Option.bind_some]

/-- The columns of the other tables stay. -/
theorem columns?_withTable_of_ne {database table otherDatabase otherTable : Text}
    (columns : List Column) (different : (otherDatabase, otherTable) ≠ (database, table)) :
    (schema.withTable database table columns).columns? otherDatabase otherTable =
      schema.columns? otherDatabase otherTable := by
  by_cases same : otherDatabase = database
  · subst same
    have otherName : otherTable ≠ table := fun equal => different (by rw [equal])
    simp only [columns?, withTable, Index.find?_insert_self, Option.bind_some,
      Index.find?_insert_of_ne _ _ otherName]
    cases schema.databases.find? otherDatabase with
    | some tables => rfl
    | none => rfl
  · simp only [columns?, withTable, Index.find?_insert_of_ne _ _ same]

/-- Adding a table adds its database, and no other. -/
theorem exists_find?_withTable {database table other : Text} {columns : List Column} :
    (∃ tables, (schema.withTable database table columns).databases.find? other = some tables) ↔
      database = other ∨ ∃ tables, schema.databases.find? other = some tables := by
  by_cases same : database = other
  · subst same
    simp only [withTable, Index.find?_insert_self, Option.some.injEq, exists_eq', true_or]
  · simp only [withTable, Index.find?_insert_of_ne _ _ (Ne.symm same), same, false_or]

/-- Different tables are added in either order. -/
theorem withTable_comm {left right : TableSchema} (different : left.address ≠ right.address) :
    (schema.withTable left.database left.name left.columns).withTable
        right.database right.name right.columns =
      (schema.withTable right.database right.name right.columns).withTable
        left.database left.name left.columns := by
  by_cases same : left.database = right.database
  · have names : left.name ≠ right.name :=
      fun equal => different (by rw [TableSchema.address, same, equal, TableSchema.address])
    simp only [withTable, same, Index.find?_insert_self, Option.getD_some, Index.insert_insert,
      Index.insert_comm _ _ _ names]
  · simp only [withTable, Index.find?_insert_of_ne _ _ same,
      Index.find?_insert_of_ne _ _ (Ne.symm same), Index.insert_comm _ _ _ same]

/-! ## Any number of tables -/

/-- Adds tables one after the other. -/
def withTables (schema : Schema) (tables : List TableSchema) : Schema :=
  tables.foldl (fun schema table => schema.withTable table.database table.name table.columns)
    schema

/-- The first table is added before the others. -/
theorem withTables_cons (table : TableSchema) (tables : List TableSchema) :
    schema.withTables (table :: tables) =
      (schema.withTable table.database table.name table.columns).withTables tables :=
  rfl

/-- Tables can be added in two steps. -/
theorem withTables_append (front back : List TableSchema) :
    schema.withTables (front ++ back) = (schema.withTables front).withTables back :=
  List.foldl_append

end Schema

/-- Of the descriptions of a table, the last one has these columns. -/
def Latest (tables : List TableSchema) (database name : Text) (columns : List Column) : Prop :=
  ∃ before after, tables = before ++ ⟨database, name, columns⟩ :: after ∧
    ∀ table ∈ after, table.address ≠ (database, name)

/-- The last description stands further on, or else is the first one. -/
theorem latest_cons {first : TableSchema} {tables : List TableSchema} {database name : Text}
    {columns : List Column} :
    Latest (first :: tables) database name columns ↔
      Latest tables database name columns ∨
        (∀ table ∈ tables, table.address ≠ (database, name)) ∧
          first = ⟨database, name, columns⟩ := by
  constructor
  · rintro ⟨before, after, split, others⟩
    cases before with
    | nil =>
      obtain ⟨rfl, rfl⟩ := List.cons.inj split
      exact Or.inr ⟨others, rfl⟩
    | cons _ before =>
      obtain ⟨rfl, rfl⟩ := List.cons.inj split
      exact Or.inl ⟨before, after, rfl, others⟩
  · rintro (⟨before, after, rfl, others⟩ | ⟨others, rfl⟩)
    · exact ⟨first :: before, after, rfl, others⟩
    · exact ⟨[], tables, rfl, others⟩

/-- A table that is described has a last description. -/
theorem exists_latest_iff {tables : List TableSchema} {database name : Text} :
    (∃ columns, Latest tables database name columns) ↔
      ∃ table ∈ tables, table.address = (database, name) := by
  constructor
  · rintro ⟨columns, before, after, rfl, -⟩
    exact ⟨_, List.mem_append_right before List.mem_cons_self, rfl⟩
  · intro described
    induction tables with
    | nil => simp at described
    | cons first tables inductionHypothesis =>
      by_cases later : ∃ table ∈ tables, table.address = (database, name)
      · obtain ⟨columns, latest⟩ := inductionHypothesis later
        exact ⟨columns, latest_cons.2 (Or.inl latest)⟩
      · obtain ⟨table, member, same⟩ := described
        rcases List.mem_cons.1 member with rfl | further
        · obtain ⟨rfl, rfl⟩ := Prod.mk.inj same
          have others : ∀ other ∈ tables, other.address ≠ (table.database, table.name) :=
            fun other otherMember equal => later ⟨other, otherMember, equal⟩
          exact ⟨table.columns, latest_cons.2 (Or.inr ⟨others, rfl⟩)⟩
        · exact absurd ⟨table, further, same⟩ later

namespace Schema

/-- The columns of a table are those of its last description, or those that it had if it
is not described. -/
theorem columns?_withTables {schema : Schema} {tables : List TableSchema} {database name : Text}
    {columns : List Column} :
    (schema.withTables tables).columns? database name = some columns ↔
      Latest tables database name columns ∨
        (∀ table ∈ tables, table.address ≠ (database, name)) ∧
          schema.columns? database name = some columns := by
  induction tables generalizing schema with
  | nil => simp [withTables, Latest]
  | cons first tables inductionHypothesis =>
    rw [withTables_cons, inductionHypothesis, latest_cons]
    by_cases same : first.address = (database, name)
    · obtain ⟨rfl, rfl⟩ := Prod.mk.inj same
      obtain ⟨_, _, described⟩ := first
      simp [columns?_withTable_self, TableSchema.address]
    · have elsewhere := schema.columns?_withTable_of_ne first.columns (Ne.symm same)
      have another : first ≠ ⟨database, name, columns⟩ := fun equal => same (by rw [equal]; rfl)
      simp only [elsewhere, another, and_false, or_false, List.forall_mem_cons, ne_eq, same,
        not_false_eq_true, true_and]

/-- The databases are those that were there and those that are named. -/
theorem exists_find?_withTables {schema : Schema} {tables : List TableSchema} {database : Text} :
    (∃ known, (schema.withTables tables).databases.find? database = some known) ↔
      (∃ table ∈ tables, table.database = database) ∨
        ∃ known, schema.databases.find? database = some known := by
  induction tables generalizing schema with
  | nil => simp [withTables]
  | cons first tables inductionHypothesis =>
    rw [withTables_cons, inductionHypothesis, exists_find?_withTable, List.exists_mem_cons_iff]
    exact or_left_comm.trans or_assoc.symm

/-! ## The listings of a schema -/

/-- The databases that are listed are those that the schema has tables for. -/
theorem mem_listDatabases_iff {schema : Schema} {database : Text} :
    ⟨database⟩ ∈ schema.listDatabases ↔
      ∃ tables, schema.databases.find? database = some tables := by
  simp only [listDatabases, List.mem_map, Database.mk.injEq, exists_eq_right, Index.mem_keys_iff]

/-- There is no listing of the tables of a database that is not listed. -/
theorem listTables_eq_error_iff {schema : Schema} {database : Text} {fault : Fault} :
    schema.listTables database = .error fault ↔
      fault = .databaseNotFound database ∧ ⟨database⟩ ∉ schema.listDatabases := by
  rw [mem_listDatabases_iff, listTables]
  cases schema.databases.find? database with
  | some tables => simp
  | none => simp [eq_comm]

/-- Of a database that is listed, those tables are listed whose columns are. -/
theorem exists_listTables_eq_ok {schema : Schema} {database : Text}
    (listed : ⟨database⟩ ∈ schema.listDatabases) :
    ∃ names, schema.listTables database = .ok (names.map (Table.mk database)) ∧
      Enumerates names fun name => ∃ columns, schema.listColumns database name = .ok columns := by
  obtain ⟨tables, known⟩ := mem_listDatabases_iff.1 listed
  refine ⟨tables.keys, by rw [listTables, known], (enumerates_keys tables).increasing, ?_⟩
  intro name
  simp only [(enumerates_keys tables).mem_iff, listColumns_eq_ok_iff, columns?, known,
    Option.bind_some]

/-! ## Listings by descriptions -/

variable (tables : List TableSchema)

/-- The columns that are listed are those of the last description. -/
theorem listColumns_withTables_eq_ok_iff {database name : Text} {columns : List Column} :
    (empty.withTables tables).listColumns database name = .ok columns ↔
      Latest tables database name columns := by
  rw [listColumns_eq_ok_iff, columns?_withTables]
  exact or_iff_left fun ⟨_, known⟩ => Option.some_ne_none columns known.symm

/-- No columns are listed of a table without a description. -/
theorem listColumns_withTables_eq_error_iff {database name : Text} {fault : Fault} :
    (empty.withTables tables).listColumns database name = .error fault ↔
      fault = .tableNotFound database name ∧
        ∀ table ∈ tables, table.address ≠ (database, name) := by
  have undescribed : (empty.withTables tables).columns? database name = none ↔
      ¬ ∃ columns, Latest tables database name columns := by
    simp only [Option.eq_none_iff_forall_ne_some, ne_eq, ← listColumns_eq_ok_iff,
      listColumns_withTables_eq_ok_iff, not_exists]
  rw [listColumns_eq_error_iff, undescribed, exists_latest_iff]
  simp only [not_exists, not_and, ne_eq]

/-- The databases that are listed are those that some description names. -/
theorem enumerates_listDatabases :
    Enumerates ((empty.withTables tables).listDatabases.map Database.name)
      fun database => ∃ table ∈ tables, table.database = database := by
  have names : (empty.withTables tables).listDatabases.map Database.name =
      (empty.withTables tables).databases.keys := by
    rw [listDatabases, List.map_map]
    exact List.map_id _
  have keys := enumerates_keys (empty.withTables tables).databases
  rw [names]
  refine ⟨keys.increasing, fun database => (keys.mem_iff database).trans ?_⟩
  rw [exists_find?_withTables]
  exact or_iff_left fun ⟨_, known⟩ => Option.some_ne_none _ known.symm

/-- Neighbouring descriptions of different tables are exchanged without a trace. -/
theorem withTables_swap {left right : TableSchema} (different : left.address ≠ right.address)
    (front back : List TableSchema) :
    empty.withTables (front ++ right :: left :: back) =
      empty.withTables (front ++ left :: right :: back) := by
  simp only [withTables_append, withTables_cons, withTable_comm _ different]

/-- A schema that is described table by table, by a file or by additions, is a map in which
the last description wins. The columns of a table are those of its last description, and
a table without one is not found. The databases that are listed are those that are named,
and the tables that are listed of a database are those whose columns are; both listings
increase strictly, and the second is there for the databases of the first alone. Of
descriptions of different tables, either may come first. -/
theorem answers_withTables (tables : List TableSchema) :
    let schema := empty.withTables tables
    ofFile ⟨tables⟩ = schema ∧
    (∀ database name,
      (∀ columns, schema.listColumns database name = .ok columns ↔
        Latest tables database name columns) ∧
      ∀ fault, schema.listColumns database name = .error fault ↔
        fault = .tableNotFound database name ∧
          ∀ table ∈ tables, table.address ≠ (database, name)) ∧
    schema.listDatabases.Nodup ∧
    Enumerates (schema.listDatabases.map Database.name)
      (fun database => ∃ table ∈ tables, table.database = database) ∧
    (∀ database,
      (∀ fault, schema.listTables database = .error fault ↔
        fault = .databaseNotFound database ∧ ⟨database⟩ ∉ schema.listDatabases) ∧
      (⟨database⟩ ∈ schema.listDatabases →
        ∃ names, schema.listTables database = .ok (names.map (Table.mk database)) ∧
          Enumerates names fun name =>
            ∃ columns, schema.listColumns database name = .ok columns)) ∧
    ∀ front left right back, tables = front ++ left :: right :: back →
      left.address ≠ right.address →
        empty.withTables (front ++ right :: left :: back) = schema := by
  intro schema
  have databases := enumerates_listDatabases tables
  refine ⟨rfl, fun database name => ⟨fun columns => ?_, fun fault => ?_⟩,
    databases.nodup.of_map _, databases, fun database => ⟨fun fault => ?_, ?_⟩, ?_⟩
  · exact listColumns_withTables_eq_ok_iff tables
  · exact listColumns_withTables_eq_error_iff tables
  · exact listTables_eq_error_iff
  · exact exists_listTables_eq_ok
  · rintro front left right back rfl different
    exact withTables_swap different front back

/-- A table is described twice, with a table of another database between. The second
description wins, and it does so behind the other table as well as in front of it. -/
theorem answers_withTables_repeated :
    let first : TableSchema := ⟨"logs", "events", [⟨"ts", "Date"⟩]⟩
    let other : TableSchema := ⟨"default", "events", []⟩
    let last : TableSchema := ⟨"logs", "events", [⟨"ts", "DateTime"⟩]⟩
    let schema := empty.withTables [first, other, last]
    schema.listColumns "logs" "events" = .ok [⟨"ts", "DateTime"⟩] ∧
    (∃ names, schema.listTables "logs" = .ok (names.map (Table.mk "logs")) ∧
      Enumerates names fun name => ∃ columns, schema.listColumns "logs" name = .ok columns) ∧
    empty.withTables [first, last, other] = schema := by
  intro first other last schema
  obtain ⟨-, columns, -, -, listings, swap⟩ :=
    answers_withTables [first, other, last]
  have latest : Latest [first, other, last] "logs" "events" [⟨"ts", "DateTime"⟩] :=
    ⟨[first, other], [], rfl, by simp⟩
  have listed : ⟨"logs"⟩ ∈ schema.listDatabases := by decide
  exact ⟨((columns "logs" "events").1 _).2 latest, (listings "logs").2 listed,
    swap [first] other last [] rfl (by decide)⟩

end Schema

end Metadata

end QueryMacros
