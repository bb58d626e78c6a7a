import QueryMacros.Context.Basic

/-!
# References to variables

A query refers to a variable as `$name`, or with the name between braces or
double brackets, where a format may follow it. A name is a word, and so is a
format. Blanks around a reference do not count; inside it there are none.

A reference is *selective* if it narrows a query. That a variable has no value,
or stands for all values, is told from its selection. A variable that the context
does not know is told by what substitution makes of the reference.
-/
namespace QueryMacros

namespace Reference

/-- The word at the front of a text, if there is one, and the text behind it. -/
def word? (text : Text) : Option (Text × Text) :=
  let word := text.takeWhile Text.isWord
  if word.isEmpty then none else some (word, text.dropWhile Text.isWord)

/-- The name in front of the given closing mark. Between the two a colon and a
format may stand. -/
def enclosed? (closing text : Text) : Option Text := do
  let (name, behind) ← word? text
  match behind with
  | ':' :: rest =>
      let (_, behind) ← word? rest
      if behind = closing then some name else none
  | _ => if behind = closing then some name else none

/-- The name of the variable that a reference without blanks around it refers
to. -/
def name? : Text → Option Text
  | '$' :: '{' :: rest => enclosed? ['}'] rest
  | '[' :: '[' :: rest => enclosed? [']', ']'] rest
  | '$' :: rest => do
      let (name, behind) ← word? rest
      if behind.isEmpty then some name else none
  | _ => none

end Reference

/-- The name of the variable that a text refers to. -/
def variableName? (text : Text) : Option Text := Reference.name? (Text.trim text)

/-- Whether a reference to the variable of a name narrows a query. -/
def Context.isSelective {σ : Type} (context : Context σ) (reference name : Text) : Bool :=
  match context.findVariable? name with
  | some known => !known.value.isEmpty && !known.value.isAll context.allValue
  | none =>
      let substituted := context.substitute reference
      substituted != reference && !substituted.isEmpty && substituted != context.allValue

end QueryMacros
