import QueryMacros.Command.Line
import QueryMacros.Command.Parameter
import QueryMacros.Context.Request
import QueryMacros.Metadata.Load
import QueryMacros.Metadata.Provider
import QueryMacros.Registry
import QueryMacros.Settings.Load

/-!
# Runs

A run loads the settings, reads the query, builds the context and expands. Its
context starts from the settings. A request takes the place of what it describes,
and the parameters come last: a range of time or an interval replaces the one
that is there, while variables and filters are added behind those that are there.

A run ends with a text, or with the first error. A command line at fault is told
apart, for it is met before anything is read.
-/
namespace QueryMacros.Command

open Metadata (Provider Remembering Schema)

variable {m : Type → Type} [Monad m]

/-- The state that the contexts of a run work on. -/
abbrev State := Remembering Schema

/-- The context of a run with its request, if it has one. -/
def requestContext (workspace : Workspace m) (settings : Settings) :
    Option Text → ExceptT Error m (Context State)
  | none => return settings.context
  | some path => do
      match ← workspace.read path with
      | .error fault => throw (.unreadableContext path fault)
      | .ok text =>
          match Request.read? text with
          | some request => return request.applyTo settings.context
          | none => throw (.malformedContext path)

/-- A context with the parameters of an expansion laid over it. -/
def withParameters (parameters : Parameters) (context : Context State) :
    Except Error (Context State) := do
  let timeRange ← match parameters.timeRange with
    | some (start, stop) => do
        let start ← readTime start
        let stop ← readTime stop
        pure (some ⟨start, stop⟩)
    | none => pure context.timeRange
  let added ← parameters.templateVariables.mapM readVariable
  let filters ← parameters.filters.mapM readFilter
  return { context with
    timeRange
    intervalMillis := parameters.intervalMillis.getD context.intervalMillis
    templateVariables := context.templateVariables ++ added
    filters := context.filters ++ filters }

/-- The path of the schema of a run, if it has one. -/
def schemaPath (workspace : Workspace m) (settings : Settings) (parameters : Parameters) :
    ExceptT Error m (Option Text) :=
  match parameters.schema with
  | some path => return some path
  | none => (settings.resolvedSchemaFile workspace).adapt .unresolvedSchema

/-- The context of a run, and the state that it starts from. -/
def buildContext (workspace : Workspace m) (settings : Settings) (parameters : Parameters) :
    ExceptT Error m (Context State × State) := do
  let context ← requestContext workspace settings parameters.context
  let context ← ofExcept (withParameters parameters context)
  match ← schemaPath workspace settings parameters with
  | none => return (context, Remembering.start .empty)
  | some path =>
      let schema ← (Schema.load workspace path).adapt (Error.schema path)
      let provider : Provider Schema := ⟨Schema.source, settings.defaultDatabase⟩
      return ({ context with keys := some provider.keys }, Remembering.start schema)

/-- The query of a run. -/
def readQuery (workspace : Workspace m) : Option Text → ExceptT Error m Text
  | some path => do
      match ← workspace.read path with
      | .ok text => return text
      | .error fault => throw (.unreadableQuery path fault)
  | none => do
      match ← workspace.input with
      | .ok text => return text
      | .error fault => throw (.unreadableInput fault)

/-- The expanded query. -/
def expand (workspace : Workspace m) (settings : Settings) (parameters : Parameters) :
    ExceptT Error m Text := do
  let query ← readQuery workspace parameters.file
  let (context, state) ← buildContext workspace settings parameters
  match (expandMacros context (Text.trimEnd query) state).1 with
  | .ok text => return text
  | .error error => throw (.expansion error)

/-- The text that a run ends with. -/
def perform (workspace : Workspace m) (config : Option Text) (task : Task) :
    ExceptT Error m Text := do
  let settings ← (match config with
    | some path => Settings.ofFile workspace path
    | none => Settings.load workspace).adapt Error.settings
  match task with
  | .expand parameters => return (← expand workspace settings parameters) ++ ['\n']
  | .macros => return (Registry.standard (σ := State)).names.flatMap (· ++ ['\n'])

/-- How a run ends. -/
inductive Outcome where
  | success (output : Text)
  | failure (error : Error)
  /-- The command line is at fault. -/
  | usage
deriving DecidableEq, Repr

/-- The name and the version of the program. -/
def version : Text := "chmacro 0.1.0"

/-- Runs a command line. -/
def run (workspace : Workspace m) (arguments : List Text) : m Outcome := do
  match Line.read? arguments with
  | none => return .usage
  | some .version => return .success (version ++ ['\n'])
  | some (.task config task) =>
      match ← (perform workspace config task).run with
      | .ok output => return .success output
      | .error error => return .failure error

end QueryMacros.Command
