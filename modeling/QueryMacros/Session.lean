import QueryMacros.Metadata.Observed
import QueryMacros.Metadata.Provider
import QueryMacros.Metadata.Schema
import QueryMacros.Registry

/-!
# Sessions

A session keeps one provider and one registry alive from request to request, over
an observed source whose schema may change and which may be out of order for a
time. What a request leaves behind, in the memory of the provider and in the
counts of the source, is what the next one meets, also after a failure.
-/
namespace QueryMacros

open Metadata (Calls Column Database Fault Lookup Table TableKey)
open Metadata (Observed Provider Remembering Schema)

/-- The state that lookups of a session work on. -/
abbrev SessionState := Remembering (Observed Schema)

/-- A provider and a registry with what they remember. -/
structure Session where
  defaultDatabase : Text
  registry : Registry SessionState
  state : SessionState

namespace Session

/-- What can be asked of a session. -/
inductive Request where
  | databases
  | tables (database : Text)
  | columns (database table : Text)
  | keys (table : Text)
  | clear
  /-- Adds or replaces a table behind the provider. -/
  | put (database table : Text) (columns : List Column)
  /-- Puts the source out of order for a reason, or in order again. -/
  | outage (reason : Option Text)
  | register (applier : Macro.Applier SessionState)
  | names
  | apply (context : Context SessionState) (sql : Text)

/-- What a session answers. -/
inductive Answer where
  | databases (databases : List Database)
  | tables (tables : List Table)
  | columns (columns : List Column)
  | keys (keys : List TableKey)
  | text (text : Text)
  | names (names : List Text)
  | done
  | fault (fault : Fault)
  | error (error : Macro.Error)

/-- A session over a schema, before any request. -/
def start (defaultDatabase : Text) (registry : Registry SessionState) (schema : Schema) :
    Session :=
  ⟨defaultDatabase, registry, .start (.start schema)⟩

/-- The provider of a session. -/
def provider (session : Session) : Provider (Observed Schema) :=
  ⟨Observed.source Schema.source, session.defaultDatabase⟩

/-- The lookups that have reached the source. -/
def calls (session : Session) : Calls := session.state.state.calls

/-- Runs a lookup. -/
def ask {α : Type} (session : Session) (lookup : Lookup SessionState α) (answer : α → Answer) :
    Answer × Session :=
  let (outcome, state) := lookup session.state
  (match outcome with
    | .ok value => answer value
    | .error fault => .fault fault,
    { session with state })

/-- Changes what is behind the provider. -/
def changeSource (session : Session) (change : Observed Schema → Observed Schema) : Session :=
  { session with state := { session.state with state := change session.state.state } }

/-- The answer to a request, and the session after it. An expansion looks up keys
through the provider of the session. -/
def handle (session : Session) : Request → Answer × Session
  | .databases => session.ask session.provider.databases .databases
  | .tables database => session.ask (session.provider.tables database) .tables
  | .columns database table => session.ask (session.provider.columns database table) .columns
  | .keys table => session.ask (session.provider.keys table) .keys
  | .clear =>
      (.text session.defaultDatabase, { session with state := session.state.clear })
  | .put database table columns =>
      (.done, session.changeSource fun source =>
        { source with state := source.state.withTable database table columns })
  | .outage reason => (.done, session.changeSource fun source => { source with outage := reason })
  | .register applier =>
      let registry := session.registry.register applier
      (.names registry.names, { session with registry })
  | .names => (.names session.registry.names, session)
  | .apply context sql =>
      let context := { context with keys := some session.provider.keys }
      let (outcome, state) := session.registry.apply context sql session.state
      (match outcome with
        | .ok text => .text text
        | .error error => .error error,
        { session with state })

end Session

end QueryMacros
