import QueryMacros.Text.Basic

/-!
# The surroundings of a run

A run reads files, environment variables and its standard input. What it can see
of them is a value: lookups in some monad. In a program they ask the operating
system; in a statement they are plain functions of a path or a name. A lookup
never fails by itself, for a file that cannot be read is an answer too.
-/
namespace QueryMacros

/-- Why a file cannot be read. -/
inductive FileFault where
  | missing
  | notDirectory
  | isDirectory
  /-- The path or a name in it is longer than the file system allows. -/
  | nameTooLong
  /-- No file can have this path. -/
  | invalidName
  | notText
deriving DecidableEq, Repr

namespace FileFault

/-- The wording of a fault. -/
def message : FileFault → Text
  | .missing => "No such file or directory (os error 2)"
  | .notDirectory => "Not a directory (os error 20)"
  | .isDirectory => "Is a directory (os error 21)"
  | .nameTooLong => "File name too long (os error 36)"
  | .invalidName => "file name contained an unexpected NUL byte"
  | .notText => "stream did not contain valid UTF-8"

/-- Whether there is something at a path that cannot be read for this reason. -/
def isPresent : FileFault → Bool
  | .missing | .notDirectory | .nameTooLong | .invalidName => false
  | .isDirectory | .notText => true

end FileFault

/-- What a run can see of its surroundings. -/
structure Workspace (m : Type → Type) where
  /-- The text of the file at a path without the character U+0000. -/
  fetch : Text → m (Except FileFault Text)
  /-- The value of an environment variable, if it is set. -/
  environment? : Text → m (Option Text)
  /-- The text of the standard input. -/
  input : m (Except FileFault Text)

namespace Workspace

variable {m : Type → Type} [Monad m]

/-- The text of the file at a path. The character U+0000 marks the end of a path that
is handed to the operating system, so no path has it inside. -/
def read (workspace : Workspace m) (path : Text) : m (Except FileFault Text) :=
  if path.contains '\x00' then return .error .invalidName else workspace.fetch path

/-- Whether there is anything at a path, readable or not. -/
def isPresent (workspace : Workspace m) (path : Text) : m Bool := do
  match ← workspace.read path with
  | .ok _ => return true
  | .error fault => return fault.isPresent

/-- The path of a name in a directory. -/
def join (directory name : Text) : Text :=
  if directory.isEmpty || directory.getLast? == some '/' then directory ++ name
  else directory ++ '/' :: name

end Workspace

end QueryMacros
