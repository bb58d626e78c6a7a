import QueryMacros.Metadata.Schema
import QueryMacros.Proofs.Metadata.Run

/-!
# Keys and columns agree

A provider remembers the keys of a table beside its columns, under the name that asked
for them, while columns are remembered under the table that the name stands for. The two
are filled at different times, over a source that may have changed in between, and still
they never differ: remembered keys are the remembered columns of their table. So a
request for keys and the query for the columns have the same outcome at any time, and two
names of one table have the same keys until the provider is cleared.
-/
namespace QueryMacros.Metadata

variable {σ : Type}

/-! ## Names of a table -/

/-- An unqualified name stands for a table of the default database. -/
theorem Provider.resolve_unqualified (provider : Provider σ) {table : Text}
    (unqualified : '.' ∉ table) :
    provider.resolve table = (provider.defaultDatabase, table) := by
  rw [resolve, splitQualified?_eq_none_iff.2 unqualified]
  rfl

/-- Behind a database, it stands for a table of that one, whatever the database is called. -/
theorem Provider.resolve_qualified (provider : Provider σ) {database table : Text}
    (unqualified : '.' ∉ table) :
    provider.resolve (database ++ '.' :: table) = (database, table) := by
  rw [resolve, splitQualified?_eq_some_iff.2 ⟨rfl, unqualified⟩]
  rfl

/-! ## The two levels -/

/-- What is remembered of keys is what is remembered of the columns of their table. -/
def Layered (provider : Provider σ) (memory : Memory) : Prop :=
  ∀ name keys, (name, keys) ∈ memory.keys →
    ∃ columns, memory.recalled? (.query (provider.columnsOf name)) = some columns ∧
      keys = toKeys columns

namespace Layered

variable {provider : Provider σ} {memory : Memory}

/-- A provider that remembers nothing has nothing to agree on. -/
theorem empty : Layered provider .empty := by
  intro name keys member
  cases member

/-- Keys that are recalled are those of the columns. -/
theorem of_recalled (layered : Layered provider memory) {name : Text} {keys : List TableKey}
    (known : memory.recalled? (.keys name) = some keys) :
    ∃ columns, memory.recalled? (.query (provider.columnsOf name)) = some columns ∧
      keys = toKeys columns := by
  obtain ⟨before, after, split, -⟩ := List.lookup_eq_some_iff.1 known
  refine layered name keys ?_
  rw [split]
  exact List.mem_append_right _ List.mem_cons_self

/-- A query that was not remembered adds columns at most, and replaces none. -/
theorem settle_query (layered : Layered provider memory) {query : Query}
    (unknown : memory.recalled? (.query query) = none) (outcome : Except Fault query.Answer) :
    Layered provider (memory.settle (.query query) outcome) := by
  have sameKeys : (memory.settle (.query query) outcome).keys = memory.keys := by
    cases outcome with
    | ok answer => cases query <;> rfl
    | error fault => rfl
  intro name keys member
  rw [sameKeys] at member
  obtain ⟨columns, known, same⟩ := layered name keys member
  have different : Request.query (provider.columnsOf name) ≠ .query query := by
    intro equal
    rw [← equal, known] at unknown
    cases unknown
  have kept : (memory.settle (.query query) outcome).recalled? (.query (provider.columnsOf name)) =
      memory.recalled? (.query (provider.columnsOf name)) :=
    memory.recalled?_settle_of_ne _ different
  exact ⟨columns, kept.trans known, same⟩

/-- Keys that are remembered beside their columns keep the two levels together. -/
theorem settle_keys (layered : Layered provider memory) {name : Text}
    {outcome : Except Fault (List Column)}
    (beside : ∀ columns, outcome = .ok columns →
      memory.recalled? (.query (provider.columnsOf name)) = some columns) :
    Layered provider (memory.settle (.keys name) (outcome.map toKeys)) := by
  cases outcome with
  | error fault => exact layered
  | ok columns =>
    intro other keys member
    rcases List.mem_cons.1 member with same | earlier
    · obtain ⟨rfl, rfl⟩ := Prod.mk.inj same
      exact ⟨columns, beside columns rfl, rfl⟩
    · exact layered other keys earlier

end Layered

namespace Provider

variable (provider : Provider σ) {here : Remembering σ}

/-- The answer to a query is remembered when it has been given. -/
theorem recalled?_of_answered {query : Query} {answer : query.Answer}
    (answered : (provider.watch (.query query) here).answer = .ok answer) :
    (provider.watch (.query query) here).after.memory.recalled? (.query query) = some answer := by
  cases known : here.memory.recalled? (.query query) with
  | some remembered =>
    rw [provider.watch_of_recalled known] at answered ⊢
    rw [known, Except.ok.inj answered]
  | none =>
    cases asked : provider.source.ask query here.state with
    | mk outcome final =>
      rw [provider.watch_query_of_unknown known asked] at answered ⊢
      obtain rfl : outcome = .ok answer := answered
      exact here.memory.recalled?_remember_self (.query query) answer

/-- A request for databases, tables or columns keeps both levels in agreement. -/
theorem layered_query (layered : Layered provider here.memory) (query : Query) :
    Layered provider (provider.watch (.query query) here).after.memory := by
  cases known : here.memory.recalled? (.query query) with
  | some answer =>
    rw [provider.watch_of_recalled known]
    exact layered
  | none =>
    rw [provider.watch_query_of_unknown known rfl]
    exact layered.settle_query known _

/-- A request keeps the two levels together. -/
theorem layered_watch (layered : Layered provider here.memory) (request : Request) :
    Layered provider (provider.watch request here).after.memory := by
  cases request with
  | query query => exact provider.layered_query layered query
  | keys name =>
    cases known : here.memory.recalled? (.keys name) with
    | some keys =>
      rw [provider.watch_of_recalled known]
      exact layered
    | none =>
      rw [provider.watch_keys_of_unknown known]
      exact (provider.layered_query layered (provider.columnsOf name)).settle_keys
        fun columns answered => provider.recalled?_of_answered answered

/-- Keys are the columns of their table, with the same outcome. -/
theorem answer_keys (layered : Layered provider here.memory) (name : Text) :
    (provider.watch (.keys name) here).answer =
      (provider.watch (.query (provider.columnsOf name)) here).answer.map toKeys := by
  cases known : here.memory.recalled? (.keys name) with
  | some keys =>
    obtain ⟨columns, remembered, rfl⟩ := layered.of_recalled known
    rw [provider.watch_of_recalled known, provider.watch_of_recalled remembered]
    rfl
  | none => rw [provider.watch_keys_of_unknown known]

/-- While the levels agree, the keys of a name are the columns of the table that it
resolves to. -/
theorem keys_eq_map_columns (layered : Layered provider here.memory) (name : Text) :
    (provider.keys name here).1 =
      (provider.columns (provider.resolve name).1 (provider.resolve name).2 here).1.map
        (List.map Column.toKey) := by
  have keys := congrArg Prod.fst (provider.ask_eq_watch (.keys name) here)
  have columns :=
    congrArg Prod.fst (provider.ask_eq_watch (.query (provider.columnsOf name)) here)
  refine keys.trans ((provider.answer_keys layered name).trans ?_)
  exact congrArg (Except.map toKeys) columns.symm

/-- Keys call for the columns of their table, and for nothing if these are remembered. -/
theorem calls_keys (layered : Layered provider here.memory) (name : Text) :
    (provider.watch (.keys name) here).calls.map (·.query) =
      if (here.memory.recalled? (.query (provider.columnsOf name))).isSome then []
      else [provider.columnsOf name] := by
  cases known : here.memory.recalled? (.keys name) with
  | some keys =>
    obtain ⟨columns, remembered, -⟩ := layered.of_recalled known
    rw [provider.watch_of_recalled known, remembered]
    rfl
  | none =>
    rw [provider.watch_keys_of_unknown known]
    cases remembered : here.memory.recalled? (.query (provider.columnsOf name)) with
    | some columns =>
      rw [provider.watch_of_recalled remembered]
      rfl
    | none =>
      rw [provider.watch_query_of_unknown remembered rfl]
      rfl

end Provider

/-! ## Runs -/

namespace Reached

variable {provider : Provider σ} {reached : Reached σ}

/-- Whatever happens, the two levels stay together. -/
theorem layered_step (layered : Layered provider reached.here.memory) (event : Event σ) :
    Layered provider (reached.step provider event).here.memory := by
  cases event with
  | ask request => exact provider.layered_watch layered request
  | clear => exact Layered.empty
  | change change => exact layered

/-- The levels agree after every sequence of events. -/
theorem layered_run (layered : Layered provider reached.here.memory) (events : List (Event σ)) :
    Layered provider (reached.run provider events).here.memory := by
  induction events generalizing reached with
  | nil => exact layered
  | cons event events inductionHypothesis => exact inductionHypothesis (layered_step layered event)

/-- Names of the same table have had the same keys since the provider was cleared. -/
theorem keys_eq_of_resolve_eq (agrees : Agrees reached.here.memory reached.past)
    (layered : Layered provider reached.here.memory) {name other : Text}
    {keys otherKeys : List TableKey} (same : provider.resolve name = provider.resolve other)
    (succeeded : ⟨.keys name, keys⟩ ∈ reached.past)
    (otherSucceeded : ⟨.keys other, otherKeys⟩ ∈ reached.past) : keys = otherKeys := by
  obtain ⟨columns, known, rfl⟩ := layered.of_recalled (agrees.remembered _ succeeded)
  obtain ⟨otherColumns, otherKnown, rfl⟩ := layered.of_recalled (agrees.remembered _ otherSucceeded)
  have sameRecall : reached.here.memory.columns.lookup (provider.resolve name) =
      reached.here.memory.columns.lookup (provider.resolve other) := by rw [same]
  obtain rfl := Option.some.inj (known.symm.trans (sameRecall.trans otherKnown))
  rfl

/-- At every point of a run, the keys that are remembered under a name are the columns
that are remembered of its table, in their order. So the request for the keys and the one
for the columns have the same outcome; and an unqualified name and the same name behind
the default database have given the same keys, whichever was asked for when, each time
they have succeeded since the provider was cleared. Both agreements hold at the start and
are kept by every event. -/
theorem levels_agree_run (provider : Provider σ) (state : σ) (events : List (Event σ)) :
    let reached := (start state).run provider events
    (∀ name keys, (name, keys) ∈ reached.here.memory.keys → ∃ columns,
      reached.here.memory.columns.lookup (provider.resolve name) = some columns ∧
        keys = columns.map Column.toKey) ∧
    (∀ name, (provider.keys name reached.here).1 =
      (provider.columns (provider.resolve name).1 (provider.resolve name).2 reached.here).1.map
        (List.map Column.toKey)) ∧
    ∀ table, '.' ∉ table →
      ∀ spelling ∈ [table, provider.defaultDatabase ++ '.' :: table],
      ∀ other ∈ [table, provider.defaultDatabase ++ '.' :: table], ∀ keys otherKeys,
        ⟨.keys spelling, keys⟩ ∈ reached.past → ⟨.keys other, otherKeys⟩ ∈ reached.past →
          keys = otherKeys := by
  intro reached
  have agrees : Agrees reached.here.memory reached.past := agrees_run Agrees.nil events
  have layered : Layered provider reached.here.memory := layered_run Layered.empty events
  refine ⟨layered, provider.keys_eq_map_columns layered, ?_⟩
  intro table unqualified spelling spelled other otherSpelled keys otherKeys
  -- Both spellings resolve to the table in the default database.
  have resolved : ∀ spelling ∈ [table, provider.defaultDatabase ++ '.' :: table],
      provider.resolve spelling = (provider.defaultDatabase, table) := by
    intro spelling spelled
    rcases List.mem_cons.1 spelled with rfl | spelled
    · exact provider.resolve_unqualified unqualified
    · obtain rfl := List.mem_singleton.1 spelled
      exact provider.resolve_qualified unqualified
  exact keys_eq_of_resolve_eq agrees layered
    ((resolved spelling spelled).trans (resolved other otherSpelled).symm)

/-- The table is gone when its second name is asked for, and the keys are still those that
the first was answered with. -/
example :
    first? ((start (Schema.empty.withTable "default" "events" [⟨"ts", "DateTime"⟩])).run
        ⟨Schema.source, "default"⟩
        [.ask (.keys "events"), .change fun _ => .empty, .ask (.keys "default.events")]).past
      (.keys "default.events") = some [⟨"ts", some "DateTime"⟩] := by
  rfl

end Reached

end QueryMacros.Metadata
