import QueryMacros.Number.Numeral

/-!
# Command lines

A command line is a list of arguments. It asks for the version, for the list of
macros, or for an expansion, whose options and file may come in any order. The
value of an option stands behind an equals sign or is the next argument; in the
latter case it does not start with a hyphen, unless it is a hyphen alone. Two
hyphens alone end the options.

The file with the settings may be named in front of the command or behind it, and
once in each place; behind it counts. Every other option but the variables and
filters may be given once. The two ends of a time range are given together.
-/
namespace QueryMacros.Command

/-- One argument, by its form. -/
inductive Argument where
  /-- A named option, with the value that is attached to it. -/
  | option (name : Text) (value : Option Text)
  /-- Options of one letter. -/
  | letters (letters : Text)
  /-- The end of the options. -/
  | separator
  | operand (text : Text)
deriving DecidableEq, Repr

/-- The form of an argument. -/
def Argument.ofText : Text → Argument
  | ['-', '-'] => .separator
  | '-' :: '-' :: rest =>
      match Text.splitFirst? '=' rest with
      | some (name, value) => .option name (some value)
      | none => .option rest none
  | ['-'] => .operand ['-']
  | '-' :: rest => .letters rest
  | text => .operand text

/-- Whether an argument can be the value of the option in front of it. -/
def isValue (argument : Text) : Bool :=
  match Argument.ofText argument with
  | .operand _ => true
  | _ => false

/-- What stands behind a command. -/
structure Operation where
  /-- The options in order, each with its value. -/
  options : List (Text × Text)
  operands : List Text
deriving DecidableEq, Repr

namespace Operation

/-- Puts an option in front. -/
def withOption (name value : Text) (operation : Operation) : Operation :=
  { operation with options := (name, value) :: operation.options }

/-- Puts an operand in front. -/
def withOperand (operand : Text) (operation : Operation) : Operation :=
  { operation with operands := operand :: operation.operands }

/-- Sorts arguments into options and operands. An option that is not known, or
has no value, is a fault. -/
def ofArguments? (known : List Text) : List Text → Option Operation
  | [] => some ⟨[], []⟩
  | argument :: rest =>
      match Argument.ofText argument with
      | .separator => some ⟨[], rest⟩
      | .operand operand => (ofArguments? known rest).map (.withOperand operand)
      | .letters _ => none
      | .option name (some value) =>
          if known.contains name then (ofArguments? known rest).map (.withOption name value)
          else none
      | .option name none =>
          match rest with
          | value :: rest =>
              if known.contains name && isValue value then
                (ofArguments? known rest).map (.withOption name value)
              else none
          | [] => none

/-- The values of an option, in order. -/
def values (operation : Operation) (name : Text) : List Text :=
  (operation.options.filter fun option => option.1 == name).map Prod.snd

/-- The value of an option that may be given once. -/
def single? (operation : Operation) (name : Text) : Option (Option Text) :=
  match operation.values name with
  | [] => some none
  | [value] => some (some value)
  | _ => none

end Operation

/-- The parameters of an expansion. -/
structure Parameters where
  /-- The file with the query, unless that comes from the standard input. -/
  file : Option Text
  /-- The ends of the time range. -/
  timeRange : Option (Text × Text)
  intervalMillis : Option UInt64
  templateVariables : List Text
  filters : List Text
  /-- The file with the schema. -/
  schema : Option Text
  /-- The file with the request. -/
  context : Option Text
deriving DecidableEq

/-- What is asked for. -/
inductive Task where
  | macros
  | expand (parameters : Parameters)
deriving DecidableEq

/-- A command line that has been understood. -/
inductive Line where
  | version
  | task (config : Option Text) (task : Task)
deriving DecidableEq

/-- A path is not empty. -/
def path? : Option Text → Option (Option Text)
  | some [] => none
  | path => some path

/-- A number of milliseconds has 64 bits. -/
def interval? : Option Text → Option (Option UInt64)
  | some written => do
      let value ← Numeral.readUnsigned? written
      if value < UInt64.size then some (some (UInt64.ofNat value)) else none
  | none => some none

/-- The two ends of a time range, or neither. -/
def timeRange? : Option Text → Option Text → Option (Option (Text × Text))
  | some start, some stop => some (some (start, stop))
  | none, none => some none
  | _, _ => none

/-- The option that names the file with the settings. -/
def configOption : Text := "config"

/-- The options of an expansion. -/
def parameterOptions : List Text :=
  [configOption, "from", "to", "interval-ms", "var", "filter", "schema", "context"]

/-- The parameters of an expansion, and the file with the settings. -/
def readParameters? (arguments : List Text) : Option (Option Text × Parameters) := do
  let operation ← Operation.ofArguments? parameterOptions arguments
  let file ← match operation.operands with
    | [] => some none
    | [file] => path? (some file)
    | _ => none
  let config ← path? (← operation.single? configOption)
  return (config, {
    file
    timeRange := ← timeRange? (← operation.single? "from") (← operation.single? "to")
    intervalMillis := ← interval? (← operation.single? "interval-ms")
    templateVariables := operation.values "var"
    filters := operation.values "filter"
    schema := ← path? (← operation.single? "schema")
    context := ← path? (← operation.single? "context") })

/-- The task that a command and the arguments behind it ask for, and the file with
the settings. -/
def readTask? (command : Text) (arguments : List Text) : Option (Option Text × Task) := do
  if command = "expand" then
    let (config, parameters) ← readParameters? arguments
    return (config, .expand parameters)
  else if command = "macros" then
    let operation ← Operation.ofArguments? [configOption] arguments
    if operation.operands.isEmpty then
      return (← path? (← operation.single? configOption), .macros)
    else none
  else none

/-- Reads the arguments in front of the command, given the file with the settings
that was named before them, and what stands behind it. -/
def Line.readFrom? (config : Option Text) : List Text → Option Line
  | [] => none
  | argument :: rest =>
      match Argument.ofText argument with
      | .operand command =>
          (readTask? command rest).map fun (inner, asked) => .task (inner <|> config) asked
      | .letters ('V' :: _) => some .version
      | .option name (some path) =>
          if name = configOption ∧ config = none ∧ path ≠ [] then readFrom? (some path) rest
          else none
      | .option name none =>
          if name = "version" then some .version
          else
            match rest with
            | path :: rest =>
                if name = configOption ∧ config = none ∧ isValue path ∧ path ≠ [] then
                  readFrom? (some path) rest
                else none
            | [] => none
      | _ => none

/-- Reads a command line. There is no answer if it is at fault. -/
def Line.read? (arguments : List Text) : Option Line := Line.readFrom? none arguments

end QueryMacros.Command
