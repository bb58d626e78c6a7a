import QueryMacros.Settings.Basic
import QueryMacros.Settings.Environment

/-!
# Loading settings

Settings are loaded from one file. A variable may name it, and then no other
file is considered. Otherwise a file in the working directory goes before the
file of the user, and if there is neither, the settings are standard.
-/
namespace QueryMacros.Settings

variable {m : Type → Type} [Monad m]

/-- The settings in a file. -/
def ofFile (workspace : Workspace m) (path : Text) : ExceptT Error m Settings := do
  match ← workspace.read path with
  | .ok text =>
      match read? text with
      | some settings => return settings
      | none => throw .malformed
  | .error fault => throw (if fault.isPresent then .unreadable fault else .fileNotFound path)

/-- The variable that names a file with settings. -/
def fileVariable : Text := "CHMACRO_CONFIG"

/-- The file with settings in the working directory. -/
def localFile : Text := "chmacro.toml"

/-- The directory of the user's configuration. A variable can move it, to an
absolute path only. -/
def userDirectory? (workspace : Workspace m) : m (Option Text) := do
  match ← workspace.environment? "XDG_CONFIG_HOME" with
  | some ('/' :: path) => return some ('/' :: path)
  | _ =>
      match ← workspace.environment? "HOME" with
      | some home => return if home.isEmpty then none else some (Workspace.join home ".config")
      | none => return none

/-- The file with the user's settings. -/
def userFile? (workspace : Workspace m) : m (Option Text) := do
  return (← userDirectory? workspace).map fun directory =>
    Workspace.join (Workspace.join directory "chmacro") "config.toml"

/-- The settings of a run. -/
def load (workspace : Workspace m) : ExceptT Error m Settings := do
  if let some path ← workspace.environment? fileVariable then
    return ← ofFile workspace path
  if ← workspace.isPresent localFile then
    return ← ofFile workspace localFile
  if let some path ← (userFile? workspace : m (Option Text)) then
    if ← workspace.isPresent path then
      return ← ofFile workspace path
  return standard

/-- The path of the schema with its references resolved, if one is set. -/
def resolvedSchemaFile (settings : Settings) (workspace : Workspace m) :
    ExceptT Error m (Option Text) :=
  match settings.schemaFile with
  | some path => return some (← expand workspace path)
  | none => return none

end QueryMacros.Settings
