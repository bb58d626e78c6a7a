import QueryMacros.Data.Toml.Reader
import QueryMacros.Metadata.Form

/-!
# Loading schemas

A schema is read from a text that describes it, or from a file with such a text.
-/
namespace QueryMacros.Metadata

/-- The description of a schema that a text holds. -/
def SchemaFile.read? (text : Text) : Option SchemaFile :=
  (Toml.read? text).bind (SchemaFile.ofData? .ignored)

/-- The schema that a text describes. -/
def Schema.read? (text : Text) : Option Schema := (SchemaFile.read? text).map Schema.ofFile

/-- The schema in a file. -/
def Schema.load {m : Type → Type} [Monad m] (workspace : Workspace m) (path : Text) :
    ExceptT Fault m Schema := do
  match ← workspace.read path with
  | .ok text =>
      match Schema.read? text with
      | some schema => return schema
      | none => throw .malformed
  | .error fault => throw (.unreadable fault)

end QueryMacros.Metadata
