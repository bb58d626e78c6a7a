import QueryMacros.Calendar.Strict
import QueryMacros.Macro.Error
import QueryMacros.Settings.Error

/-!
# Errors of a run

A run can fail over its settings, over one of its files, over the text of a
parameter, or in the expansion itself. Each cause has its own wording; that of
the settings starts differently from the others.
-/
namespace QueryMacros.Command

/-- Why a run failed. -/
inductive Error where
  | settings (error : Settings.Error)
  | unreadableQuery (path : Text) (fault : FileFault)
  | unreadableInput (fault : FileFault)
  | unreadableContext (path : Text) (fault : FileFault)
  | malformedContext (path : Text)
  | timeOutOfRange (written : Text)
  | invalidTime (written : Text) (fault : Calendar.Fault)
  | invalidVariable (written : Text)
  | invalidFilter (written : Text)
  | unknownOperator (symbol : Text)
  | unresolvedSchema (error : Settings.Error)
  | schema (path : Text) (fault : Metadata.Fault)
  | expansion (error : Macro.Error)
deriving DecidableEq, Repr

namespace Error

/-- The wording of an error without what announces it. The reason why a file is
malformed is left out. -/
def detail : Error → Text
  | .settings error | .unresolvedSchema error => error.message
  | .unreadableQuery path fault => "reading file '" ++ path ++ "': " ++ fault.message
  | .unreadableInput fault => "reading stdin: " ++ fault.message
  | .unreadableContext path fault => "reading context '" ++ path ++ "': " ++ fault.message
  | .malformedContext path => "parsing context '" ++ path ++ "':"
  | .timeOutOfRange written => "timestamp out of range: " ++ written
  | .invalidTime written fault => "invalid time '" ++ written ++ "': " ++ fault.message
  | .invalidVariable written => "invalid variable '" ++ written ++ "', expected name=value"
  | .invalidFilter written => "invalid filter '" ++ written ++ "', expected \"key op value\""
  | .unknownOperator symbol => FilterOperator.unknownMessage symbol
  | .schema path fault => "loading schema '" ++ path ++ "': " ++ fault.message
  | .expansion error => error.message

/-- The wording of an error. -/
def message (error : Error) : Text :=
  match error with
  | .settings _ => "Error loading config: " ++ error.detail
  | _ => "Error: " ++ error.detail

end Error

end QueryMacros.Command
