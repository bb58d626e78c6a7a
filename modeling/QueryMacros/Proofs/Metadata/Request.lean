import QueryMacros.Metadata.Provider

/-!
# Requests to a provider

A provider is asked for what its source can be asked for, and for the keys of the table
that a name stands for. What it does with a request follows from its memory. A
remembered answer is given again, and nothing else happens. Any other query reaches the
source once; its outcome is handed on as it is, and remembered if it is an answer. A
request for keys that are not remembered is the query for the columns of the table, and
what it answers is remembered as keys.

These three laws are all that the rest of the theory knows of a provider.
-/
namespace QueryMacros.Metadata

variable {σ : Type}

/-- What a source can be asked for. -/
inductive Query where
  | databases
  | tables (database : Text)
  | columns (database table : Text)
deriving DecidableEq, Repr

/-- What a query is answered with. -/
@[reducible] def Query.Answer : Query → Type
  | .databases => List Database
  | .tables _ => List Table
  | .columns _ _ => List Column

/-- What a provider can be asked for. -/
inductive Request where
  | query (query : Query)
  | keys (name : Text)
deriving DecidableEq, Repr

/-- What a request is answered with. -/
@[reducible] def Request.Answer : Request → Type
  | .query asked => asked.Answer
  | .keys _ => List TableKey

/-- Columns as the keys of their table. -/
def toKeys (columns : List Column) : List TableKey := columns.map Column.toKey

/-- The lookup of a source that answers a query. -/
def Source.ask (source : Source σ) : (query : Query) → Lookup σ query.Answer
  | .databases => source.databases
  | .tables database => source.tables database
  | .columns database table => source.columns database table

/-! ## Memory -/

namespace Memory

/-- The remembered answer to a request. -/
def recalled? (memory : Memory) : (request : Request) → Option request.Answer
  | .query .databases => memory.databases
  | .query (.tables database) => memory.tables.lookup database
  | .query (.columns database table) => memory.columns.lookup (database, table)
  | .keys name => memory.keys.lookup name

/-- Remembers the answer to a request. -/
def remember (memory : Memory) : (request : Request) → request.Answer → Memory
  | .query .databases, answer => { memory with databases := some answer }
  | .query (.tables database), answer =>
      { memory with tables := (database, answer) :: memory.tables }
  | .query (.columns database table), answer =>
      { memory with columns := ((database, table), answer) :: memory.columns }
  | .keys name, answer => { memory with keys := (name, answer) :: memory.keys }

/-- Remembers the outcome of a request if it is an answer. A fault leaves no trace. -/
def settle (memory : Memory) (request : Request) : Except Fault request.Answer → Memory
  | .ok answer => memory.remember request answer
  | .error _ => memory

/-- The memory of a new provider recalls nothing. -/
@[simp] theorem recalled?_empty (request : Request) : empty.recalled? request = none := by
  cases request with
  | query query => cases query <;> rfl
  | keys name => rfl

/-- What was remembered last is recalled. -/
theorem recalled?_remember_self (memory : Memory) (request : Request) (answer : request.Answer) :
    (memory.remember request answer).recalled? request = some answer := by
  cases request with
  | query query => cases query <;> simp [recalled?, remember]
  | keys name => simp [recalled?, remember]

/-- An entry in front hides no other key. -/
theorem lookup_cons_of_ne {κ α : Type} [BEq κ] [LawfulBEq κ] {key other : κ} {value : α}
    {entries : List (κ × α)} (different : other ≠ key) :
    ((key, value) :: entries).lookup other = entries.lookup other := by
  rw [List.lookup_cons, beq_false_of_ne different]

/-- Remembering an answer leaves the answers to all other requests as they were. Requests
of different kinds are remembered apart; of one kind, by what they ask for. -/
theorem recalled?_remember_of_ne (memory : Memory) {request other : Request}
    (answer : request.Answer) (different : other ≠ request) :
    (memory.remember request answer).recalled? other = memory.recalled? other := by
  cases request with
  | query query =>
    cases other with
    | query other =>
      cases query with
      | databases =>
        cases other with
        | databases => exact absurd rfl different
        | tables | columns => rfl
      | tables database =>
        cases other with
        | tables name => exact lookup_cons_of_ne fun same => different (by rw [same])
        | databases | columns => rfl
      | columns database table =>
        cases other with
        | columns otherDatabase otherTable =>
          refine lookup_cons_of_ne fun same => different ?_
          obtain ⟨rfl, rfl⟩ := Prod.mk.inj same
          rfl
        | databases | tables => rfl
    | keys name => cases query <;> rfl
  | keys name =>
    cases other with
    | query other => cases other <;> rfl
    | keys other => exact lookup_cons_of_ne fun same => different (by rw [same])

/-- The outcome of one request changes nothing that is recalled of another. -/
theorem recalled?_settle_of_ne (memory : Memory) {request other : Request}
    (outcome : Except Fault request.Answer) (different : other ≠ request) :
    (memory.settle request outcome).recalled? other = memory.recalled? other := by
  cases outcome with
  | ok answer => exact memory.recalled?_remember_of_ne answer different
  | error fault => rfl

end Memory

/-! ## Asking -/

/-- Two lookups in turn: the second follows an answer of the first, in the state that the
first leaves. -/
theorem Lookup.bind_apply {α β : Type} (first : Lookup σ α) (next : α → Lookup σ β) (state : σ) :
    (first >>= next) state = match first state with
      | (.ok answer, between) => next answer between
      | (.error fault, between) => (.error fault, between) := by
  change ExceptT.bindCont next (first state).1 (first state).2 = _
  cases first state with
  | mk outcome between =>
    cases outcome with
    | ok answer => rfl
    | error fault => rfl

/-- A lookup can read its state, and leaves it. -/
theorem Lookup.get_apply (state : σ) : (get : Lookup σ σ) state = (.ok state, state) := rfl

namespace Remembering

variable {α : Type} {recalled : Memory → Option α} {remember : α → Memory → Memory}
  {ask : Lookup (Remembering σ) α} {here : Remembering σ}

/-- A remembered answer is given as it is. -/
theorem consult_of_some {answer : α} (known : recalled here.memory = some answer) :
    consult recalled remember ask here = (.ok answer, here) := by
  refine (Lookup.bind_apply get _ here).trans ?_
  rw [Lookup.get_apply]
  simp only [known]
  rfl

/-- Remembers an outcome if it is an answer. -/
def keep (remember : α → Memory → Memory) (after : Remembering σ) :
    Except Fault α → Remembering σ
  | .ok answer => { after with memory := remember answer after.memory }
  | .error _ => after

/-- Without one, what is asked for is handed on, and remembered if it is an answer. -/
theorem consult_of_none {after : Remembering σ} {outcome : Except Fault α}
    (unknown : recalled here.memory = none) (asked : ask here = (outcome, after)) :
    consult recalled remember ask here = (outcome, after.keep remember outcome) := by
  refine (Lookup.bind_apply get _ here).trans ?_
  rw [Lookup.get_apply]
  simp only [unknown]
  refine (Lookup.bind_apply ask _ here).trans ?_
  rw [asked]
  cases outcome with
  | ok answer => rfl
  | error fault => rfl

end Remembering

namespace Provider

/-- The lookup of a provider that answers a request. -/
def ask (provider : Provider σ) : (request : Request) → Lookup (Remembering σ) request.Answer
  | .query .databases => provider.databases
  | .query (.tables database) => provider.tables database
  | .query (.columns database table) => provider.columns database table
  | .keys name => provider.keys name

/-- The query for the columns of the table that a name stands for. -/
@[reducible] def columnsOf (provider : Provider σ) (name : Text) : Query :=
  .columns (provider.resolve name).1 (provider.resolve name).2

variable (provider : Provider σ) {here : Remembering σ}

/-- A request for databases, tables or columns is answered from memory, or else by the
source. -/
theorem ask_query (query : Query) :
    provider.ask (.query query) = Remembering.consult (·.recalled? (.query query))
      (fun answer memory => memory.remember (.query query) answer)
      (Remembering.fetch (provider.source.ask query)) := by
  cases query <;> rfl

/-- A request for keys is answered from memory, or else from the columns of the
table. -/
theorem ask_keys (name : Text) :
    provider.ask (.keys name) = Remembering.consult (·.recalled? (.keys name))
      (fun answer memory => memory.remember (.keys name) answer)
      (do return toKeys (← provider.ask (.query (provider.columnsOf name)))) :=
  rfl

/-- A remembered answer is given again, and nothing else happens. -/
theorem ask_of_recalled {request : Request} {answer : request.Answer}
    (known : here.memory.recalled? request = some answer) :
    provider.ask request here = (.ok answer, here) := by
  cases request with
  | query query =>
    rw [ask_query]
    exact Remembering.consult_of_some known
  | keys name =>
    rw [ask_keys]
    exact Remembering.consult_of_some known

/-- A query that is not remembered is answered by the source, and its answer is
remembered. -/
theorem ask_query_of_unknown {query : Query} {outcome : Except Fault query.Answer} {final : σ}
    (unknown : here.memory.recalled? (.query query) = none)
    (asked : provider.source.ask query here.state = (outcome, final)) :
    provider.ask (.query query) here =
      (outcome, Remembering.mk (here.memory.settle (.query query) outcome) final) := by
  have fetched : Remembering.fetch (provider.source.ask query) here =
      (outcome, Remembering.mk here.memory final) := by
    rw [Remembering.fetch, asked]
  rw [ask_query, Remembering.consult_of_none unknown fetched]
  cases outcome with
  | ok answer => rfl
  | error fault => rfl

/-- Keys that are not remembered are the columns of the table, and are remembered beside
them. -/
theorem ask_keys_of_unknown {name : Text} {outcome : Except Fault (List Column)}
    {after : Remembering σ} (unknown : here.memory.recalled? (.keys name) = none)
    (asked : provider.ask (.query (provider.columnsOf name)) here = (outcome, after)) :
    provider.ask (.keys name) here =
      (outcome.map toKeys,
        Remembering.mk (after.memory.settle (.keys name) (outcome.map toKeys)) after.state) := by
  have mapped : (do return toKeys (← provider.ask (.query (provider.columnsOf name))) :
      Lookup (Remembering σ) (List TableKey)) here = (outcome.map toKeys, after) := by
    refine (Lookup.bind_apply (provider.ask (.query (provider.columnsOf name))) _ here).trans ?_
    rw [asked]
    cases outcome with
    | ok columns => rfl
    | error fault => rfl
  rw [ask_keys, Remembering.consult_of_none unknown mapped]
  cases outcome with
  | ok columns => rfl
  | error fault => rfl

end Provider

end QueryMacros.Metadata
