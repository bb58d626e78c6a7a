import QueryMacros.Proofs.Metadata.Request

/-!
# Watching a provider

The lookups that reach a source are made visible by a source that keeps a record of them.
A provider over such a source shows with each request the calls that it makes. The record
changes nothing else: answers, memory and the state of the source are those of the
provider that is not watched.
-/
namespace QueryMacros.Metadata

variable {σ : Type}

/-- A lookup that reached a source, and its outcome. -/
structure Call where
  query : Query
  outcome : Except Fault query.Answer

/-- The state of a source, and the calls that have reached it. -/
structure Recorded (σ : Type) where
  state : σ
  calls : List Call

/-- A provider whose source has no calls on record yet. -/
def Remembering.recorded (here : Remembering σ) : Remembering (Recorded σ) :=
  ⟨here.memory, ⟨here.state, []⟩⟩

/-- Makes a lookup and records it. -/
def Recorded.lookup (query : Query) (inner : Lookup σ query.Answer) :
    Lookup (Recorded σ) query.Answer :=
  fun recorded =>
    let (outcome, state) := inner recorded.state
    (outcome, ⟨state, recorded.calls ++ [⟨query, outcome⟩]⟩)

/-- A source that records its calls. -/
def Source.recorded (source : Source σ) : Source (Recorded σ) where
  databases := Recorded.lookup .databases source.databases
  tables database := Recorded.lookup (.tables database) (source.tables database)
  columns database table :=
    Recorded.lookup (.columns database table) (source.columns database table)

/-- A source that records its calls answers as before, and adds each call to the
record. -/
theorem Source.ask_recorded (source : Source σ) (query : Query) :
    source.recorded.ask query = Recorded.lookup query (source.ask query) := by
  cases query <;> rfl

/-- What a request is seen to do: its answer, the calls that it makes, and what it
leaves behind. -/
structure Seen (σ : Type) (request : Request) where
  answer : Except Fault request.Answer
  calls : List Call
  after : Remembering σ

namespace Provider

variable (provider : Provider σ)

/-- The provider over the source that records its calls. -/
def recorded : Provider (Recorded σ) := ⟨provider.source.recorded, provider.defaultDatabase⟩

/-- Makes a request and watches its calls. -/
def watch (request : Request) (here : Remembering σ) : Seen σ request :=
  let (answer, after) := provider.recorded.ask request here.recorded
  ⟨answer, after.state.calls, ⟨after.memory, after.state.state⟩⟩

variable {here : Remembering σ}

/-- A remembered answer is given without a call. -/
theorem watch_of_recalled {request : Request} {answer : request.Answer}
    (known : here.memory.recalled? request = some answer) :
    provider.watch request here = ⟨.ok answer, [], here⟩ := by
  have asked : provider.recorded.ask request here.recorded = (.ok answer, here.recorded) :=
    provider.recorded.ask_of_recalled known
  rw [watch, asked]
  rfl

/-- A query that is not remembered is one call. -/
theorem watch_query_of_unknown {query : Query} {outcome : Except Fault query.Answer} {final : σ}
    (unknown : here.memory.recalled? (.query query) = none)
    (asked : provider.source.ask query here.state = (outcome, final)) :
    provider.watch (.query query) here =
      ⟨outcome, [⟨query, outcome⟩], ⟨here.memory.settle (.query query) outcome, final⟩⟩ := by
  have recordedAsked : provider.recorded.source.ask query (Recorded.mk here.state []) =
      (outcome, Recorded.mk final [⟨query, outcome⟩]) := by
    change provider.source.recorded.ask query _ = _
    rw [Source.ask_recorded, Recorded.lookup, asked]
    rfl
  have answered : provider.recorded.ask (.query query) here.recorded = _ :=
    provider.recorded.ask_query_of_unknown unknown recordedAsked
  rw [watch, answered]
  rfl

/-- A query makes one call, unless its answer is remembered. -/
theorem length_calls_query (query : Query) (here : Remembering σ) :
    (provider.watch (.query query) here).calls.length =
      if (here.memory.recalled? (.query query)).isSome then 0 else 1 := by
  cases recalled : here.memory.recalled? (.query query) with
  | some answer => simp [provider.watch_of_recalled recalled]
  | none => simp [provider.watch_query_of_unknown recalled rfl]

/-- A query that fails leaves the memory as it was. -/
theorem memory_query_of_fault {query : Query} {fault : Fault}
    (failed : (provider.watch (.query query) here).answer = .error fault) :
    (provider.watch (.query query) here).after.memory = here.memory := by
  cases recalled : here.memory.recalled? (.query query) with
  | some answer => rw [provider.watch_of_recalled recalled]
  | none =>
    cases asked : provider.source.ask query here.state with
    | mk outcome final =>
      rw [provider.watch_query_of_unknown recalled asked] at failed ⊢
      obtain rfl : outcome = .error fault := failed
      rfl

/-- A query does not touch what is remembered of keys. -/
theorem recalled?_keys_query (query : Query) (here : Remembering σ) (name : Text) :
    (provider.watch (.query query) here).after.memory.recalled? (.keys name) =
      here.memory.recalled? (.keys name) := by
  cases recalled : here.memory.recalled? (.query query) with
  | some answer => rw [provider.watch_of_recalled recalled]
  | none =>
    rw [provider.watch_query_of_unknown recalled rfl]
    exact here.memory.recalled?_settle_of_ne _ (by simp)

/-- Keys that are not remembered make the calls of the query for the columns. -/
theorem watch_keys_of_unknown {name : Text}
    (unknown : here.memory.recalled? (.keys name) = none) :
    provider.watch (.keys name) here =
      let asked := provider.watch (.query (provider.columnsOf name)) here
      ⟨asked.answer.map toKeys, asked.calls,
        ⟨asked.after.memory.settle (.keys name) (asked.answer.map toKeys), asked.after.state⟩⟩ := by
  cases asked : provider.recorded.ask (.query (provider.columnsOf name)) here.recorded with
  | mk outcome after =>
    have answered : provider.recorded.ask (.keys name) here.recorded = _ :=
      provider.recorded.ask_keys_of_unknown unknown asked
    simp only [watch, answered, asked]

/-- Watching does not disturb. The cases are those of a request: it is remembered, it goes
to the source, or it is made from the columns. -/
theorem ask_eq_watch (request : Request) (here : Remembering σ) :
    provider.ask request here =
      ((provider.watch request here).answer, (provider.watch request here).after) := by
  have known {request : Request} {answer : request.Answer}
      (recalled : here.memory.recalled? request = some answer) : provider.ask request here =
        ((provider.watch request here).answer, (provider.watch request here).after) := by
    rw [provider.ask_of_recalled recalled, provider.watch_of_recalled recalled]
  have queried (query : Query) : provider.ask (.query query) here =
      ((provider.watch (.query query) here).answer,
        (provider.watch (.query query) here).after) := by
    cases recalled : here.memory.recalled? (.query query) with
    | some answer => exact known recalled
    | none =>
      cases asked : provider.source.ask query here.state with
      | mk outcome final =>
        rw [provider.ask_query_of_unknown recalled asked,
          provider.watch_query_of_unknown recalled asked]
  cases request with
  | query query => exact queried query
  | keys name =>
    cases recalled : here.memory.recalled? (.keys name) with
    | some answer => exact known recalled
    | none =>
      rw [provider.ask_keys_of_unknown recalled (queried (provider.columnsOf name)),
        provider.watch_keys_of_unknown recalled]

end Provider

end QueryMacros.Metadata
