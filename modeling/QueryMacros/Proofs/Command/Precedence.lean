import QueryMacros.Command.Run

/-!
# Parameters over a request

The parameters of an expansion are laid over the context of its request. A range of time or
an interval takes the place of the request's, so the parameter wins. Variables do not: they
are put behind those of the request, and a name is looked up from the front. So a variable of
the request hides every parameter of its name, and a parameter is found only where the
request has no variable of the name, or has the same one.
-/
namespace QueryMacros.Command

open Metadata (Provider Remembering Schema Lookup TableKey)

/-! ## Overlays -/

/-- What the parameters of an expansion say about its context. -/
structure Overlay where
  timeRange : Option TimeRange
  intervalMillis : Option UInt64
  templateVariables : List TemplateVariable
  filters : List AdHocFilter
deriving DecidableEq

/-- A context with an overlay: single values are replaced, and lists go on. -/
def Overlay.applyTo {σ : Type} (overlay : Overlay) (context : Context σ) : Context σ :=
  { context with
    timeRange := overlay.timeRange.or context.timeRange
    intervalMillis := overlay.intervalMillis.getD context.intervalMillis
    templateVariables := context.templateVariables ++ overlay.templateVariables
    filters := context.filters ++ overlay.filters }

/-- Reads the range of time between two written ends. -/
def readTimeRange (written : Text × Text) : Except Error TimeRange := do
  return ⟨← readTime written.1, ← readTime written.2⟩

/-- Reads the parameters of an expansion. -/
def Parameters.read (parameters : Parameters) : Except Error Overlay := do
  return {
    timeRange := ← parameters.timeRange.mapM readTimeRange
    intervalMillis := parameters.intervalMillis
    templateVariables := ← parameters.templateVariables.mapM readVariable
    filters := ← parameters.filters.mapM readFilter }

/-- The parameters are read without a look at the context that they are laid over. -/
theorem withParameters_eq (parameters : Parameters) (context : Context State) :
    withParameters parameters context = (·.applyTo context) <$> parameters.read := by
  unfold withParameters Parameters.read
  cases parameters.timeRange with
  | none =>
    simp only [Option.mapM_none, pure_bind, map_bind, map_pure]
    rfl
  | some written =>
    simp only [Option.mapM_some, readTimeRange, bind_assoc, map_eq_pure_bind, pure_bind]
    rfl

/-! ## Variables -/

/-- The first variable of a name. -/
def firstNamed (name : Text) (list : List TemplateVariable) : Option TemplateVariable :=
  list.find? fun candidate => candidate.name == name

/-- A variable of the context hides those of an overlay. -/
theorem findVariable?_applyTo {σ : Type} (overlay : Overlay) (context : Context σ) (name : Text) :
    (overlay.applyTo context).findVariable? name =
      (context.findVariable? name).or (firstNamed name overlay.templateVariables) :=
  List.find?_append

/-- Of two places to look in it does not matter which comes first exactly if one of them is
vacant or both hold the same. -/
theorem or_comm_iff {α : Type} (first second : Option α) :
    first.or second = second.or first ↔ ∀ a ∈ first, ∀ b ∈ second, a = b := by
  cases first with
  | none => cases second <;> simp
  | some a => cases second <;> simp

/-! ## Contexts of runs -/

section Run

variable {m : Type → Type} [Monad m] [LawfulMonad m]

/-- The lookup of keys in the schema of a run, if it has one, and the state to start from. -/
def schemaKeys (workspace : Workspace m) (settings : Settings) (parameters : Parameters) :
    ExceptT Error m (Option (Text → Lookup State (List TableKey)) × State) := do
  match ← schemaPath workspace settings parameters with
  | none => return (none, Remembering.start .empty)
  | some path =>
      let schema ← (Schema.load workspace path).adapt (Error.schema path)
      let provider : Provider Schema := ⟨Schema.source, settings.defaultDatabase⟩
      return (some provider.keys, Remembering.start schema)

/-- The context of a run is built in three steps. The last one is about the keys only, and
does not depend on the other two. -/
theorem buildContext_eq (workspace : Workspace m) (settings : Settings)
    (parameters : Parameters) :
    buildContext workspace settings parameters = (do
      let context ← requestContext workspace settings parameters.context
      let context ← ofExcept (withParameters parameters context)
      let (keys, state) ← schemaKeys workspace settings parameters
      return ({ context with keys := keys.or context.keys }, state)) := by
  unfold buildContext schemaKeys
  refine bind_congr fun context => bind_congr fun context => ?_
  rw [bind_assoc]
  refine bind_congr fun path => ?_
  cases path with
  | none => rw [pure_bind]; rfl
  | some path =>
    simp only [bind_assoc, pure_bind]
    rfl

/-- The request of a run is found at its path and can be read. -/
def HasRequest (workspace : Workspace m) (parameters : Parameters) (request : Request) : Prop :=
  ∃ path text, parameters.context = some path ∧ workspace.read path = pure (.ok text) ∧
    Request.read? text = some request

/-- With a request the settings count for nothing that a request describes. -/
theorem requestContext_eq {workspace : Workspace m} {parameters : Parameters} {request : Request}
    (requested : HasRequest workspace parameters request) (settings : Settings) :
    requestContext workspace settings parameters.context =
      pure (request.applyTo settings.context) := by
  obtain ⟨path, text, named, fetched, described⟩ := requested
  simp [requestContext, named, fetched, described]

/-- Apart from its keys, the context of a run with a request and parameters is known: a range
of time or an interval is the parameters' if they have one, and the request's otherwise. The
first variable of a name is the request's, and the parameters' only if the request has none.
So it is what a lookup in the parameters and then in the request would find exactly if not
both have a variable of the name, or both have the same one first. -/
theorem buildContext_precedence {workspace : Workspace m} {parameters : Parameters}
    {request : Request} {overlay : Overlay} (requested : HasRequest workspace parameters request)
    (given : parameters.read = .ok overlay) (settings : Settings) :
    ∃ context : Context State,
      buildContext workspace settings parameters =
        (fun source => ({ context with keys := source.1 }, source.2)) <$>
          schemaKeys workspace settings parameters ∧
      context.timeRange = overlay.timeRange.or request.timeRange ∧
      context.intervalMillis = overlay.intervalMillis.getD request.intervalMillis ∧
      ∀ name,
        context.findVariable? name =
          (firstNamed name request.templateVariables).or
            (firstNamed name overlay.templateVariables) ∧
        (context.findVariable? name =
            (firstNamed name overlay.templateVariables).or
              (firstNamed name request.templateVariables) ↔
          ∀ asked ∈ firstNamed name request.templateVariables,
            ∀ laid ∈ firstNamed name overlay.templateVariables, asked = laid) := by
  have found (name : Text) := findVariable?_applyTo overlay
    (request.applyTo settings.context : Context State) name
  refine ⟨overlay.applyTo (request.applyTo settings.context), ?_, rfl, rfl, fun name => ?_⟩
  · have read : ofExcept (withParameters parameters (request.applyTo settings.context)) =
        (pure (overlay.applyTo (request.applyTo settings.context)) :
          ExceptT Error m (Context State)) := by
      rw [withParameters_eq, given]
      rfl
    rw [buildContext_eq, requestContext_eq requested, pure_bind, read, pure_bind,
      map_eq_pure_bind]
    refine bind_congr fun source => ?_
    obtain ⟨keys, state⟩ := source
    -- Neither the settings nor the request have keys of their own.
    cases keys <;> rfl
  · refine ⟨found name, ?_⟩
    rw [found name]
    exact or_comm_iff _ _

end Run

/-- A request in which all hosts are selected. -/
def allHosts : Request := { Request.empty with templateVariables := [⟨"host", .single "$__all"⟩] }

/-- Surroundings with the request in every file. -/
def workspaceOfAllHosts : Workspace Id where
  fetch _ := .ok
    ("\x7b\"template_vars\": [\x7b\"name\": \"host\", \"current\": \x7b\"value\": " ++
      "\"$__all\"\x7d\x7d]\x7d").toList
  environment? _ := none
  input := .ok []

/-- The parameters that select one host and another interval. -/
def oneHost : Parameters where
  file := none
  timeRange := none
  intervalMillis := some 5000
  templateVariables := ["host=web", "zone=north"]
  filters := []
  schema := none
  context := some "context.json"

/-- The interval of the parameters wins over the request's, and so does a variable that the
request does not have. The host of the request stays. -/
theorem buildContext_precedence_oneHost :
    ∃ context : Context State,
      buildContext workspaceOfAllHosts .standard oneHost =
        (fun source => ({ context with keys := source.1 }, source.2)) <$>
          schemaKeys workspaceOfAllHosts .standard oneHost ∧
      context.intervalMillis = 5000 ∧
      context.findVariable? "zone" = some ⟨"zone", .single "north"⟩ ∧
      context.findVariable? "host" = some ⟨"host", .single "$__all"⟩ ∧
      firstNamed "host" [⟨"host", .single "web"⟩, ⟨"zone", .single "north"⟩] =
        some ⟨"host", .single "web"⟩ := by
  have requested : HasRequest workspaceOfAllHosts oneHost allHosts :=
    ⟨_, _, rfl, rfl, by decide +kernel⟩
  have given : oneHost.read = .ok
      { timeRange := none
        intervalMillis := some 5000
        templateVariables := [⟨"host", .single "web"⟩, ⟨"zone", .single "north"⟩]
        filters := [] } := by
    rfl
  obtain ⟨context, built, -, interval, found⟩ :=
    buildContext_precedence requested given .standard
  exact ⟨context, built, interval, (found "zone").1, (found "host").1, rfl⟩

end QueryMacros.Command
