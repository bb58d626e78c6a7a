import QueryMacros.Macro.Error
import QueryMacros.Macro.Occurrence

/-!
# Invocations

An invocation is an occurrence of a macro as an expansion sees it: the name, the
arguments, and the byte offsets that the occurrence spans in the text it was
found in. It is searched for from a byte offset, which may be any up to the end of
the text.
-/
namespace QueryMacros.Macro

/-- A call of a macro in a text. `start` and `stop` are the byte offsets in front
of the name and behind the arguments. -/
structure Invocation where
  name : Text
  start : Nat
  stop : Nat
  arguments : List Text
deriving DecidableEq, Repr

namespace Invocation

/-- The number of arguments. -/
def arity (invocation : Invocation) : Nat := invocation.arguments.length

/-- The text between the two offsets, if both are places of the text and in
order. -/
def source? (invocation : Invocation) (sql : Text) : Option Text := do
  let (before, rest) ← Text.cutAt? sql invocation.start
  let (source, _) ← Text.cutAt? rest (invocation.stop - Text.utf8Length before)
  if invocation.start ≤ invocation.stop then some source else none

/-- The text with what stands between the two offsets replaced, if both are places
of the text. -/
def replaceIn? (invocation : Invocation) (sql replacement : Text) : Option Text := do
  let (before, _) ← Text.cutAt? sql invocation.start
  let (_, behind) ← Text.cutAt? sql invocation.stop
  return before ++ replacement ++ behind

/-- The arguments without the blanks around them. Their number has to be the given
one, and none may be blank. -/
def requireArguments (invocation : Invocation) (count : Nat) : Except Error (List Text) :=
  let trimmed := invocation.arguments.map Text.trim
  if trimmed.length = count ∧ trimmed.all fun argument => !argument.isEmpty then .ok trimmed
  else .error (.arity invocation.name count)

end Invocation

/-- An occurrence behind a place, as an invocation in the whole text. -/
def Occurrence.invocation (occurrence : Occurrence) (name : Text) (cursor : Cursor) :
    Invocation where
  name := name
  start := cursor.offset + Text.utf8Length occurrence.before
  stop := cursor.offset + Text.utf8Length occurrence.before + Text.utf8Length occurrence.source
  arguments := occurrence.arguments

/-- The place behind an occurrence. -/
def Occurrence.behind (occurrence : Occurrence) (cursor : Cursor) : Cursor :=
  ⟨cursor.before ++ occurrence.before ++ occurrence.source, occurrence.rest⟩

/-- Why a search cannot start: the byte offset that it was given lies behind the end of a text
of that length. -/
structure BehindEnd where
  offset : Nat
  length : Nat
deriving DecidableEq, Repr

/-- Searches a text for the first invocation of a name at or behind a byte offset. An offset
inside a character leads behind that character. Behind the end of the text there is no place
to start from; to be refused there is another outcome than to find nothing. -/
def searchFrom (name sql : Text) (offset : Nat) : Except BehindEnd (Option Invocation) :=
  match Cursor.atOrBehind? sql offset with
  | some cursor => .ok ((next? name cursor).map (·.invocation name cursor))
  | none => .error ⟨offset, Text.utf8Length sql⟩

/-- What a search finds from a byte offset that it can start from. -/
def findAt? (name sql : Text) (offset : Nat) : Option Invocation :=
  (searchFrom name sql offset).toOption.join

/-- The invocations of a name at or behind a place, each searched for behind the
one before it. An empty name can occur without taking up any text; the list ends
with such an occurrence if it stands at the place of the search itself. -/
def invocations (name : Text) (cursor : Cursor) : List Invocation :=
  match next? name cursor with
  | none => []
  | some occurrence =>
      let invocation := occurrence.invocation name cursor
      if occurrence.rest.length < cursor.after.length then
        invocation :: invocations name (occurrence.behind cursor)
      else [invocation]
termination_by cursor.after.length
decreasing_by assumption

end QueryMacros.Macro
