import QueryMacros.Context.Basic
import QueryMacros.Macro.Invocation

/-!
# Appliers

An applier has the name of a macro and knows what an invocation of it expands
to. Applying it to a text goes through the invocations from left to right. The
arguments of an invocation are expanded first, each as a text of its own; then
the invocation itself is expanded, and the search goes on behind the text that
took its place. So nothing that an expansion produces is searched again, and
since a name is never empty, every step leaves less text to search: the run ends
for every applier, whatever it expands to.

The expansion is given the whole text as it stands at that moment. Only the
ad-hoc filter looks at it.
-/
namespace QueryMacros.Macro

/-- A step of an expansion. It may change the state that the lookups of the
context work on, and it may fail; the state that it leaves counts in both
cases. -/
abbrev Expansion (σ : Type) := ExceptT Error (StateM σ)

/-- The name of a macro and the meaning of its invocations. -/
structure Applier (σ : Type) where
  name : Text
  named : name ≠ []
  /-- The text that takes the place of an invocation. `sql` is the whole text that
  the invocation was found in. -/
  expand (sql : Text) (invocation : Invocation) (context : Context σ) : Expansion σ Text

namespace Applier

variable {σ : Type}

/-- Expands the invocations behind a place, and gives the whole text. -/
def applyFrom (applier : Applier σ) (context : Context σ) (cursor : Cursor) : Expansion σ Text :=
  match _found : next? applier.name cursor with
  | none => return cursor.text
  | some occurrence => do
      let arguments ← occurrence.arguments.attach.mapM fun argument =>
        applier.applyFrom context (.start argument.val)
      let invocation := { occurrence.invocation applier.name cursor with arguments }
      let replacement ← applier.expand cursor.text invocation context
      applier.applyFrom context
        ⟨cursor.before ++ occurrence.before ++ replacement, occurrence.rest⟩
termination_by cursor.after.length
decreasing_by
  · exact occurrence?_argument_length ‹_› argument.property
  · exact occurrence?_rest_length applier.named ‹_›

/-- Expands every invocation in a text. -/
def applyAll (applier : Applier σ) (context : Context σ) (sql : Text) : Expansion σ Text :=
  applier.applyFrom context (.start sql)

/-- Expands the first invocation at or behind a place, and gives the place behind
its replacement. There is none if no invocation is left. -/
def applyAt (applier : Applier σ) (context : Context σ) (cursor : Cursor) :
    Expansion σ (Option Cursor) :=
  match next? applier.name cursor with
  | none => return none
  | some occurrence => do
      let arguments ← occurrence.arguments.mapM (applier.applyAll context)
      let invocation := { occurrence.invocation applier.name cursor with arguments }
      let replacement ← applier.expand cursor.text invocation context
      return some ⟨cursor.before ++ occurrence.before ++ replacement, occurrence.rest⟩

/-- Expands the first invocation in a text. -/
def applyFirst (applier : Applier σ) (context : Context σ) (sql : Text) : Expansion σ Text := do
  match ← applier.applyAt context (.start sql) with
  | some cursor => return cursor.text
  | none => return sql

/-- A piece of what a template expands to: a literal text, or the argument of an
index. -/
inductive Piece where
  | literal (text : Text)
  | argument (index : Nat)
deriving DecidableEq, Repr

/-- The applier that takes a number of arguments and puts them, without the blanks
around them, between literal pieces. -/
def template (name : Text) (named : name ≠ []) (count : Nat) (pieces : List Piece) :
    Applier σ where
  name := name
  named := named
  expand _ invocation _ := do
    let arguments ← ofExcept (invocation.requireArguments count)
    return pieces.flatMap fun
      | .literal text => text
      | .argument index => arguments.getD index []

end Applier

end QueryMacros.Macro
