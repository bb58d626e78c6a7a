import QueryMacros.Context.Basic
import QueryMacros.Data.Record
import QueryMacros.Data.Toml.Reader
import QueryMacros.Metadata.Schema

/-!
# Settings

Settings say what a context starts from and where a schema is found. They are
written in three sections, each of which may be left out, as may every setting in
it.
-/
namespace QueryMacros

/-- What a user can set. -/
structure Settings where
  /-- The value of a variable that stands for all values. -/
  allValue : Text
  /-- The database of tables that are named without one. -/
  defaultDatabase : Text
  /-- The path of a schema. It may refer to environment variables. -/
  schemaFile : Option Text
  logLevel : Text
deriving DecidableEq, Repr

namespace Settings

open Data

/-- The settings of a user who sets nothing. -/
def standard : Settings where
  allValue := Context.defaultAllValue
  defaultDatabase := Metadata.defaultDatabase
  schemaFile := none
  logLevel := "warn"

/-- Settings as data. -/
def toData (settings : Settings) : Data :=
  ofFields
    [("macros", ofFields [("all_value", .text settings.allValue)]),
      ("metadata",
        ofFields
          [("default_database", .text settings.defaultDatabase),
            ("schema_file", ofOption .text settings.schemaFile)]),
      ("logging", ofFields [("level", .text settings.logLevel)])]

/-- A section that is left out is one without settings. -/
def emptySection : Data := .record []

/-- The settings that a record describes. -/
def ofData? (surplus : Surplus) (data : Data) : Option Settings := do
  match ← fields? surplus ["macros", "metadata", "logging"] data with
  | [macroSection, metadataSection, loggingSection] =>
      match ← fields? surplus ["all_value"] (macroSection.getD emptySection),
        ← fields? surplus ["default_database", "schema_file"] (metadataSection.getD emptySection),
        ← fields? surplus ["level"] (loggingSection.getD emptySection) with
      | [allValue], [defaultDatabase, schemaFile], [logLevel] =>
          return {
            allValue := ← withDefault standard.allValue toText? allValue
            defaultDatabase := ← withDefault standard.defaultDatabase toText? defaultDatabase
            schemaFile := ← withDefault standard.schemaFile (toOption? toText?) schemaFile
            logLevel := ← withDefault standard.logLevel toText? logLevel }
      | _, _, _ => none
  | _ => none

/-- The settings that a text describes. -/
def read? (text : Text) : Option Settings := (Toml.read? text).bind (ofData? .ignored)

/-- The context that a query starts from. -/
def context {σ : Type} (settings : Settings) : Context σ :=
  { Context.empty with allValue := settings.allValue }

end Settings

end QueryMacros
