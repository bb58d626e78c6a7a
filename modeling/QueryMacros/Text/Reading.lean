import QueryMacros.Text.Basic

/-!
# Readings

A reading takes characters from the front of a text, or fails without a word on
what is wrong. Readings are put together in sequence and by choice. One that is
repeated is given as many turns as the text has characters, and one more; every
repeated reading of this library takes a character at least in each turn but the
last, so the turns never run out before the text does.
-/
namespace QueryMacros.Text

/-- Takes characters from the front of a text, or fails. -/
abbrev Reading := StateT Text Option

namespace Reading

variable {α : Type}

/-- Takes the next character, which has to pass a test. -/
def character (test : Char → Bool) : Reading Char := fun
  | [] => none
  | c :: rest => if test c then some (c, rest) else none

/-- Takes the given character. -/
def mark (c : Char) : Reading Unit := do
  let _ ← character (· == c)

/-- Takes the given text. -/
def literal (front : Text) : Reading Unit := fun text =>
  (behind? front text).map fun rest => ((), rest)

/-- Takes the longest run of characters that pass a test. It may be empty. -/
def run (test : Char → Bool) : Reading Text := fun text =>
  some (text.takeWhile test, text.dropWhile test)

/-- The next character, which is left where it is. -/
def ahead : Reading (Option Char) := return (← get).head?

/-- Repeats a reading until it gives nothing, and collects what it gave. -/
def collect (item : Reading (Option α)) : Nat → Reading (List α)
  | 0 => failure
  | turns + 1 => do
      match ← item with
      | some value => return value :: (← collect item turns)
      | none => return []

/-- Repeats a reading as often as the text allows. -/
def repeated (item : Reading (Option α)) : Reading (List α) := do
  collect item ((← get).length + 1)

/-- What a reading makes of a whole text. Nothing may be left over. -/
def whole? (reading : Reading α) (text : Text) : Option α :=
  match reading text with
  | some (value, []) => some value
  | _ => none

end Reading

end QueryMacros.Text
