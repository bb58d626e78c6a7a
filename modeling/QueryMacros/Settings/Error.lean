import QueryMacros.Workspace

/-!
# Errors of settings

Settings fail to load because their file is not there, cannot be read or cannot
be understood. The path of a schema fails to resolve because a variable is not
set.
-/
namespace QueryMacros.Settings

/-- Why settings cannot be used. -/
inductive Error where
  | fileNotFound (path : Text)
  | unreadable (fault : FileFault)
  | malformed
  | variableNotSet (name : Text)
deriving DecidableEq, Repr

/-- The wording of an error. The reason why settings are malformed is left out. -/
def Error.message : Error → Text
  | .fileNotFound path => "Config file not found: " ++ path
  | .unreadable fault => "Failed to read config file: " ++ fault.message
  | .malformed => "Failed to parse config file:"
  | .variableNotSet name => "Missing environment variable: " ++ name

end QueryMacros.Settings
