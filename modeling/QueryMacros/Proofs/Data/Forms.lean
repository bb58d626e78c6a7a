import QueryMacros.Context.Request
import QueryMacros.Metadata.Form
import QueryMacros.Proofs.Calendar.RoundTrip
import QueryMacros.Proofs.Data.Faithful
import QueryMacros.Settings.Basic

/-!
# Forms of the library's data

Requests, schemas and settings travel as JSON. Everything that is written this way is read
back as it was, and what is read from another way of writing the same, with fields left
out, with fields that nobody knows, as a bare list, or with a date in a free form, comes
to the one form that it is written in.
-/
namespace QueryMacros

open Data
open Json (Plain)

/-! ## Parts of a context -/

/-- An instant is decoded from its encoding. -/
theorem Instant.faithful : Faithful Instant.toData Instant.ofData? where
  plain _ := .text _
  decoded instant := Calendar.readLenient?_write instant

/-- A time range is decoded from its encoding. -/
theorem TimeRange.faithful (surplus : Surplus) :
    Faithful TimeRange.toData (ofData? surplus) := by
  refine faithful_record surplus ["from", "to"]
    (fun range => [some range.start.toData, some range.stop.toData])
    (by decide) (fun _ => rfl) (fun _ => rfl) ?plain ?built
  case plain =>
    simp [Instant.faithful.plain]
  case built =>
    simp [required, Instant.faithful.decoded]

/-- A list is no text, so a value and a list of one value are told apart. -/
theorem VariableValue.faithful : Faithful VariableValue.toData VariableValue.ofData? where
  plain value := by
    cases value with
    | single value => exact .text value
    | multiple values => exact faithful_text.list.plain values
  decoded value := by
    cases value with
    | single value => rfl
    | multiple values =>
      have read := faithful_text.list.decoded values
      simp only [toData, ofList] at read ⊢
      rw [ofData?, read]
      · rfl
      · intro text same
        cases same

/-- The current value of a variable stands in a record of its own. -/
theorem TemplateVariable.current_faithful (surplus : Surplus) :
    Faithful (fun value => ofFields [("value", value.toData)]) (current? surplus) := by
  refine faithful_record surplus ["value"] (fun value => [some value.toData])
    (by decide) (fun _ => rfl) (fun _ => rfl) ?plain ?built
  case plain =>
    simp [VariableValue.faithful.plain]
  case built =>
    simp [required, VariableValue.faithful.decoded]

/-- A variable is decoded from its encoding. -/
theorem TemplateVariable.faithful (surplus : Surplus) :
    Faithful TemplateVariable.toData (ofData? surplus) := by
  have current := current_faithful surplus
  refine faithful_record surplus ["name", "current"]
    (fun templateVariable => [some (.text templateVariable.name),
      some (ofFields [("value", templateVariable.value.toData)])])
    (by decide) (fun _ => rfl) (fun _ => rfl) ?plain ?built
  case plain =>
    intro templateVariable
    have plain := current.plain templateVariable.value
    simp only [List.mem_cons, List.not_mem_nil, or_false, Option.some.injEq]
    rintro data (rfl | rfl)
    · exact .text _
    · exact plain
  case built =>
    intro templateVariable
    have decoded := current.decoded templateVariable.value
    simp only [required, Option.bind_some, decoded]
    rfl

/-- An operator is decoded from its encoding. -/
theorem FilterOperator.faithful : Faithful FilterOperator.toData FilterOperator.ofData? where
  plain operator := .text operator.symbol
  decoded operator := ofSymbol?_symbol operator

/-- A filter is decoded from its encoding, with a value or without. -/
theorem AdHocFilter.faithful (surplus : Surplus) :
    Faithful AdHocFilter.toData (ofData? surplus) := by
  have value := faithful_text.option (by simp)
  refine faithful_record surplus ["key", "operator", "value"]
    (fun filter => [some (.text filter.key), some filter.operator.toData,
      some (ofOption .text filter.value)])
    (by decide) (fun _ => rfl) (fun _ => rfl) ?plain ?built
  case plain =>
    simp [value.plain, FilterOperator.faithful.plain, Plain.text]
  case built =>
    simp [required, withDefault, value.decoded, FilterOperator.faithful.decoded,
      faithful_text.decoded]

/-- A request is decoded from its encoding, whichever of its fields are absent. -/
theorem Request.faithful (surplus : Surplus) : Faithful Request.toData (ofData? surplus) := by
  have timeRange := (TimeRange.faithful surplus).option (by simp [TimeRange.toData, ofFields])
  have templateVariables := (TemplateVariable.faithful surplus).list
  have filters := (AdHocFilter.faithful surplus).list
  refine faithful_record surplus ["time_range", "interval_ms", "template_vars", "filters"]
    (fun request => [some (ofOption TimeRange.toData request.timeRange),
      some (.whole request.intervalMillis.toNat),
      some (ofList TemplateVariable.toData request.templateVariables),
      some (ofList AdHocFilter.toData request.filters)])
    (by decide) (fun _ => rfl) (fun _ => rfl) ?plain ?built
  case plain =>
    simp [timeRange.plain, templateVariables.plain, filters.plain, Plain.whole]
  case built =>
    intro request
    simp only
    rw [withDefault_some, withDefault_some, withDefault_some, withDefault_some, timeRange.decoded,
      faithful_word.decoded, templateVariables.decoded, filters.decoded]
    rfl

/-! ## Metadata -/

namespace Metadata

/-- A database is decoded from its encoding. -/
theorem Database.faithful (surplus : Surplus) :
    Faithful Database.toData (ofData? surplus) := by
  refine faithful_record surplus ["name"] (fun database => [some (.text database.name)])
    (by decide) (fun _ => rfl) (fun _ => rfl) ?plain ?built
  case plain =>
    simp [Plain.text]
  case built =>
    simp [required, faithful_text.decoded]

/-- A table is decoded from its encoding. -/
theorem Table.faithful (surplus : Surplus) : Faithful Table.toData (ofData? surplus) := by
  refine faithful_record surplus ["database", "name"]
    (fun table => [some (.text table.database), some (.text table.name)])
    (by decide) (fun _ => rfl) (fun _ => rfl) ?plain ?built
  case plain =>
    simp [Plain.text]
  case built =>
    simp [required, faithful_text.decoded]

/-- A column is decoded from its encoding. -/
theorem Column.faithful (surplus : Surplus) : Faithful Column.toData (ofData? surplus) := by
  refine faithful_record surplus ["name", "type"]
    (fun column => [some (.text column.name), some (.text column.type)])
    (by decide) (fun _ => rfl) (fun _ => rfl) ?plain ?built
  case plain =>
    simp [Plain.text]
  case built =>
    simp [required, faithful_text.decoded]

/-- The type of a key is the one field that is left out where there is no value. -/
theorem TableKey.faithful (surplus : Surplus) : Faithful TableKey.toData (ofData? surplus) := by
  refine faithful_record surplus ["value", "type"]
    (fun key => [some (.text key.value), key.type.map .text])
    (by decide) (fun _ => rfl) ?encoded ?plain ?built
  case encoded =>
    rintro ⟨value, type⟩
    cases type <;> rfl
  case plain =>
    rintro ⟨value, type⟩
    cases type <;> simp [Plain.text]
  case built =>
    rintro ⟨value, type⟩
    cases type <;> rfl

/-- The description of a table is decoded from its encoding. -/
theorem TableSchema.faithful (surplus : Surplus) :
    Faithful TableSchema.toData (ofData? surplus) := by
  have columns := (Column.faithful surplus).list
  refine faithful_record surplus ["database", "name", "columns"]
    (fun table => [some (.text table.database), some (.text table.name),
      some (ofList Column.toData table.columns)])
    (by decide) (fun _ => rfl) (fun _ => rfl) ?plain ?built
  case plain =>
    simp [columns.plain, Plain.text]
  case built =>
    simp [required, withDefault, columns.decoded, faithful_text.decoded]

/-- A file of descriptions is decoded from its encoding. -/
theorem SchemaFile.faithful (surplus : Surplus) :
    Faithful SchemaFile.toData (ofData? surplus) := by
  have tables := (TableSchema.faithful surplus).list
  refine faithful_record surplus ["tables"]
    (fun file => [some (ofList TableSchema.toData file.tables)])
    (by decide) (fun _ => rfl) (fun _ => rfl) ?plain ?built
  case plain =>
    simp [tables.plain]
  case built =>
    simp [withDefault, tables.decoded]

end Metadata

/-! ## Settings -/

/-- The sections are records within the record, and none of them is left out. -/
theorem Settings.faithful (surplus : Surplus) : Faithful Settings.toData (ofData? surplus) := by
  have schemaFile := faithful_text.option (by simp)
  refine faithful_record surplus ["macros", "metadata", "logging"]
    (fun settings => [some (ofFields [("all_value", .text settings.allValue)]),
      some (ofFields [("default_database", .text settings.defaultDatabase),
        ("schema_file", ofOption .text settings.schemaFile)]),
      some (ofFields [("level", .text settings.logLevel)])])
    (by decide) (fun _ => rfl) (fun _ => rfl) ?plain ?built
  case plain =>
    intro settings
    simp only [List.mem_cons, List.not_mem_nil, or_false, Option.some.injEq]
    rintro data (rfl | rfl | rfl)
    all_goals
      apply plain_ofFields
      simp [schemaFile.plain, Plain.text]
  case built =>
    intro settings
    have macroSection : fields? surplus ["all_value"]
        (ofFields [("all_value", .text settings.allValue)]) =
          some [some (.text settings.allValue)] :=
      fields?_present surplus [("all_value", some (.text settings.allValue))] (by simp)
    have metadataSection : fields? surplus ["default_database", "schema_file"]
        (ofFields [("default_database", .text settings.defaultDatabase),
          ("schema_file", ofOption .text settings.schemaFile)]) =
            some [some (.text settings.defaultDatabase),
              some (ofOption .text settings.schemaFile)] :=
      fields?_present surplus [("default_database", some (.text settings.defaultDatabase)),
        ("schema_file", some (ofOption .text settings.schemaFile))] (by simp)
    have loggingSection : fields? surplus ["level"]
        (ofFields [("level", .text settings.logLevel)]) = some [some (.text settings.logLevel)] :=
      fields?_present surplus [("level", some (.text settings.logLevel))] (by simp)
    simp only [Option.getD_some, macroSection, metadataSection, loggingSection]
    simp [withDefault, schemaFile.decoded, faithful_text.decoded]

/-! ## All forms -/

/-- The kinds of data that travel as JSON by themselves. -/
inductive Kind where
  | request
  | timeRange
  | variableValue
  | templateVariable
  | adHocFilter
  | filterOperator
  | tableKey
  | column
  | table
  | database
  | schemaFile
  | settings

namespace Kind

open Metadata

/-- The values of a kind. -/
def Value : Kind → Type
  | request => Request
  | timeRange => TimeRange
  | variableValue => VariableValue
  | templateVariable => TemplateVariable
  | adHocFilter => AdHocFilter
  | filterOperator => FilterOperator
  | tableKey => TableKey
  | column => Column
  | table => Table
  | database => Database
  | schemaFile => SchemaFile
  | settings => Settings

/-- A value as data. -/
def toData : (kind : Kind) → kind.Value → Data
  | request => Request.toData
  | timeRange => TimeRange.toData
  | variableValue => VariableValue.toData
  | templateVariable => TemplateVariable.toData
  | adHocFilter => AdHocFilter.toData
  | filterOperator => FilterOperator.toData
  | tableKey => TableKey.toData
  | column => Column.toData
  | table => Table.toData
  | database => Database.toData
  | schemaFile => SchemaFile.toData
  | settings => Settings.toData

/-- The value of a kind that data describes. In JSON no list may be longer than its record. -/
def ofData? : (kind : Kind) → Data → Option kind.Value
  | request => Request.ofData? .refused
  | timeRange => TimeRange.ofData? .refused
  | variableValue => VariableValue.ofData?
  | templateVariable => TemplateVariable.ofData? .refused
  | adHocFilter => AdHocFilter.ofData? .refused
  | filterOperator => FilterOperator.ofData?
  | tableKey => TableKey.ofData? .refused
  | column => Column.ofData? .refused
  | table => Table.ofData? .refused
  | database => Database.ofData? .refused
  | schemaFile => SchemaFile.ofData? .refused
  | settings => Settings.ofData? .refused

/-- A value as JSON. -/
def write (kind : Kind) (value : kind.Value) : Text := Json.write (kind.toData value)

/-- The value of a kind that a JSON text describes. -/
def read? (kind : Kind) (text : Text) : Option kind.Value := (Json.read? text).bind kind.ofData?

/-- The text that a kind writes for what it reads of a text. -/
def rewrite? (kind : Kind) (text : Text) : Option Text := (kind.read? text).map kind.write

/-- The data of every kind is decoded from its encoding. -/
theorem faithful (kind : Kind) : Faithful kind.toData kind.ofData? := by
  cases kind with
  | request => exact Request.faithful .refused
  | timeRange => exact TimeRange.faithful .refused
  | variableValue => exact VariableValue.faithful
  | templateVariable => exact TemplateVariable.faithful .refused
  | adHocFilter => exact AdHocFilter.faithful .refused
  | filterOperator => exact FilterOperator.faithful
  | tableKey => exact TableKey.faithful .refused
  | column => exact Column.faithful .refused
  | table => exact Table.faithful .refused
  | database => exact Database.faithful .refused
  | schemaFile => exact SchemaFile.faithful .refused
  | settings => exact Settings.faithful .refused

/-- What a kind writes as JSON, it reads back. -/
theorem read?_write (kind : Kind) (value : kind.Value) :
    kind.read? (kind.write value) = some value :=
  kind.faithful.read value

/-- What is written for a value is read back as the value, and what is read of any text is read
again of the text that is written for it, which is then written as it is. -/
theorem round_trip (kind : Kind) :
    (∀ value, kind.read? (kind.write value) = some value) ∧
      ∀ text, (kind.rewrite? text).bind kind.read? = kind.read? text ∧
        (kind.rewrite? text).bind kind.rewrite? = kind.rewrite? text := by
  refine ⟨kind.read?_write, ?_⟩
  intro text
  unfold rewrite?
  cases kind.read? text with
  | none => exact ⟨rfl, rfl⟩
  | some value =>
    have again := kind.read?_write value
    constructor
    · rw [Option.map_some, Option.bind_some, again]
    · rw [Option.map_some, Option.bind_some, again, Option.map_some]

example : request.rewrite? "\x7b\"filters\": [[\"t.c\", \"=~\"]], \"unknown\": []\x7d" =
    some ("\x7b\"time_range\":null,\"interval_ms\":0,\"template_vars\":[]," ++
      "\"filters\":[\x7b\"key\":\"t.c\",\"operator\":\"=~\",\"value\":null\x7d]\x7d") := by
  decide +kernel

example : timeRange.rewrite? "[\"2024-1-2 3:4:5 UTC\", \"2024-02-29T23:59:60.5+01 00\"]" =
    some "\x7b\"from\":\"2024-01-02T03:04:05Z\",\"to\":\"2024-02-29T22:59:60.500Z\"\x7d" := by
  decide +kernel

end Kind

end QueryMacros
