import QueryMacros.Settings.Error
import QueryMacros.Text.Character

/-!
# References to the environment

A text may refer to environment variables, as `$name` or with the name between
braces. Without braces the name is the longest run of alphanumeric characters and
underscores, and a dollar sign without such a run stands for itself. Between
braces a name is whatever stands in front of the closing one, or of the end of
the text.

A text is first split and then looked up, so what a variable holds is inserted
as it is and never searched for references.
-/
namespace QueryMacros.Settings

/-- A part of a text with references. -/
inductive Part where
  /-- A character that stands for itself. -/
  | character (c : Char)
  | reference (name : Text)
deriving DecidableEq, Repr

/-- A character of a name without braces. -/
def isNameCharacter (c : Char) : Bool := Text.isAlphanumeric c || c == '_'

/-- The parts of a text in order. -/
def parts : Text → List Part
  | [] => []
  | '$' :: '{' :: rest =>
      .reference (rest.takeWhile (· != '}')) :: parts ((rest.dropWhile (· != '}')).drop 1)
  | '$' :: rest =>
      if (rest.takeWhile isNameCharacter).isEmpty then .character '$' :: parts rest
      else .reference (rest.takeWhile isNameCharacter) :: parts (rest.dropWhile isNameCharacter)
  | c :: rest => .character c :: parts rest
termination_by text => text.length
decreasing_by
  all_goals simp only [List.length_cons, List.length_drop]
  · have := (List.dropWhile_suffix (l := rest) (· != '}')).length_le
    omega
  · omega
  · have := (List.dropWhile_suffix (l := rest) isNameCharacter).length_le
    omega
  · omega

variable {m : Type → Type} [Monad m]

/-- What a part stands for. No variable has an empty name. -/
def Part.resolve (workspace : Workspace m) : Part → ExceptT Error m Text
  | .character c => return [c]
  | .reference name => do
      if name.isEmpty then throw (.variableNotSet name)
      match ← workspace.environment? name with
      | some value => return value
      | none => throw (.variableNotSet name)

/-- A text with its references replaced by the values of the variables. The first
variable that is not set is an error. -/
def expand (workspace : Workspace m) (text : Text) : ExceptT Error m Text := do
  return (← (parts text).mapM (Part.resolve workspace)).flatten

end QueryMacros.Settings
