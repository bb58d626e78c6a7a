import QueryMacros.Metadata.Basic

/-!
# Observed sources

An observed source counts the lookups that reach it, by kind, and can be put out
of order. While it is, every lookup fails with the given reason and does not
reach the state behind; it is counted all the same.
-/
namespace QueryMacros.Metadata

/-- The number of lookups of each kind. -/
structure Calls where
  databases : Nat
  tables : Nat
  columns : Nat
deriving DecidableEq, Repr

/-- A state behind a source that is observed. -/
structure Observed (σ : Type) where
  state : σ
  outage : Option Text
  calls : Calls

namespace Observed

/-- The observation of a state before any lookup, with the source in order. -/
def start {σ : Type} (state : σ) : Observed σ := ⟨state, none, ⟨0, 0, 0⟩⟩

/-- Runs one lookup under observation. -/
def lookup {σ α : Type} (count : Calls → Calls) (inner : Lookup σ α) : Lookup (Observed σ) α :=
  fun observed =>
    let calls := count observed.calls
    match observed.outage with
    | some reason => (.error (.source reason), { observed with calls })
    | none =>
        let (answer, state) := inner observed.state
        (answer, { observed with state, calls })

/-- A source under observation. -/
def source {σ : Type} (inner : Source σ) : Source (Observed σ) where
  databases := lookup (fun calls => { calls with databases := calls.databases + 1 }) inner.databases
  tables database :=
    lookup (fun calls => { calls with tables := calls.tables + 1 }) (inner.tables database)
  columns database table :=
    lookup (fun calls => { calls with columns := calls.columns + 1 })
      (inner.columns database table)

end Observed

end QueryMacros.Metadata
