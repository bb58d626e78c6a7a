import QueryMacros.Metadata.Basic

/-!
# Providers

A provider stands in front of a source and remembers its answers. Each answer is
fetched once and kept until the provider is cleared; a failure is never kept, so
the next request asks again. Four kinds of answers are remembered: the
databases, the tables of a database, the columns of a table, and the keys of a
table under the name that asked for them. Keys are not fetched on their own.
They are the columns of the table that the name stands for, and go through the
memory of the columns.
-/
namespace QueryMacros.Metadata

/-- The answers that a provider remembers. -/
structure Memory where
  databases : Option (List Database)
  tables : List (Text × List Table)
  columns : List ((Text × Text) × List Column)
  keys : List (Text × List TableKey)

/-- The memory of a provider that has not been asked, or has been cleared. -/
def Memory.empty : Memory := ⟨none, [], [], []⟩

/-- The memory of a provider together with the state of its source. -/
structure Remembering (σ : Type) where
  memory : Memory
  state : σ

namespace Remembering

variable {σ α : Type}

/-- A provider that has not been asked. -/
def start (state : σ) : Remembering σ := ⟨.empty, state⟩

/-- Forgets every answer. -/
def clear (remembering : Remembering σ) : Remembering σ := { remembering with memory := .empty }

/-- Lets the source answer, without a look at the memory. -/
def fetch (inner : Lookup σ α) : Lookup (Remembering σ) α :=
  fun remembering =>
    let (answer, state) := inner remembering.state
    (answer, { remembering with state })

/-- Gives the remembered answer, or asks for one and remembers it. -/
def consult (recalled : Memory → Option α) (remember : α → Memory → Memory)
    (ask : Lookup (Remembering σ) α) : Lookup (Remembering σ) α := do
  match recalled (← get).memory with
  | some answer => return answer
  | none =>
      let answer ← ask
      modify fun remembering => { remembering with memory := remember answer remembering.memory }
      return answer

end Remembering

/-- A provider: a source, and the database of table names without one. -/
structure Provider (σ : Type) where
  source : Source σ
  defaultDatabase : Text

namespace Provider

open Remembering

variable {σ : Type}

/-- The database and the table that a name stands for. -/
def resolve (provider : Provider σ) (name : Text) : Text × Text :=
  (splitQualified? name).getD (provider.defaultDatabase, name)

/-- The databases. -/
def databases (provider : Provider σ) : Lookup (Remembering σ) (List Database) :=
  consult (·.databases) (fun answer memory => { memory with databases := some answer })
    (fetch provider.source.databases)

/-- The tables of a database. -/
def tables (provider : Provider σ) (database : Text) : Lookup (Remembering σ) (List Table) :=
  consult (·.tables.lookup database)
    (fun answer memory => { memory with tables := (database, answer) :: memory.tables })
    (fetch (provider.source.tables database))

/-- The columns of a table. -/
def columns (provider : Provider σ) (database table : Text) :
    Lookup (Remembering σ) (List Column) :=
  consult (·.columns.lookup (database, table))
    (fun answer memory => { memory with columns := ((database, table), answer) :: memory.columns })
    (fetch (provider.source.columns database table))

/-- The keys of the table that a name stands for. -/
def keys (provider : Provider σ) (name : Text) : Lookup (Remembering σ) (List TableKey) :=
  consult (·.keys.lookup name)
    (fun answer memory => { memory with keys := (name, answer) :: memory.keys })
    (do
      let (database, table) := provider.resolve name
      return (← provider.columns database table).map Column.toKey)

end Provider

end QueryMacros.Metadata
