import QueryMacros.Text.Character

/-!
# Argument lists

An argument list is a parenthesised text that follows a name at once. It is
split at the commas of its own level only: commas inside inner parentheses or
inside quotes belong to an argument. A quote is opened by any of three
characters and closed by the same one; inside it a backslash takes the next
character along, and nothing else has a meaning. A doubled quote closes and
reopens, which leaves the scan where a single escaped quote would have left it.

A list whose parentheses never balance is no list at all, and a list that holds
one blank argument holds none.
-/
namespace QueryMacros.Macro

/-- How the next character of an argument list is read. -/
inductive Mode where
  /-- Outside quotes, where parentheses and commas count. -/
  | plain
  /-- Inside a quote that the given character closes. -/
  | quoted (quote : Char)
  /-- Inside such a quote, right after a backslash. -/
  | escaped (quote : Char)
deriving DecidableEq, Repr

/-- The characters that open a quote. -/
def isQuote (c : Char) : Bool := c == '\'' || c == '"' || c == '\x60'

/-- The pieces of a scanned list: its first argument, the arguments after it,
and the text that follows the closing parenthesis. -/
structure Scanned where
  first : Text
  others : List Text
  rest : Text
deriving DecidableEq, Repr

namespace Scanned

/-- Puts a character in front of the first argument. -/
def keep (c : Char) (scanned : Scanned) : Scanned :=
  { scanned with first := c :: scanned.first }

/-- Puts an empty argument in front of the list, at the comma that ends it. -/
def split (scanned : Scanned) : Scanned :=
  { first := [], others := scanned.first :: scanned.others, rest := scanned.rest }

/-- The arguments in order. There is always one at least. -/
def arguments (scanned : Scanned) : List Text := scanned.first :: scanned.others

end Scanned

/-- Scans from inside an argument list to the parenthesis that closes it. `depth`
counts the inner parentheses that are open. There is no answer when the text
ends first. -/
def scan : Mode → Nat → Text → Option Scanned
  | _, _, [] => none
  | .escaped quote, depth, c :: rest => (scan (.quoted quote) depth rest).map (.keep c)
  | .quoted quote, depth, c :: rest =>
      if c = '\\' then (scan (.escaped quote) depth rest).map (.keep c)
      else if c = quote then (scan .plain depth rest).map (.keep c)
      else (scan (.quoted quote) depth rest).map (.keep c)
  | .plain, depth, c :: rest =>
      if isQuote c then (scan (.quoted c) depth rest).map (.keep c)
      else if c = '(' then (scan .plain (depth + 1) rest).map (.keep c)
      else if c = ')' then
        match depth with
        | 0 => some ⟨[], [], rest⟩
        | outer + 1 => (scan .plain outer rest).map (.keep c)
      else if c = ',' ∧ depth = 0 then (scan .plain depth rest).map .split
      else (scan .plain depth rest).map (.keep c)

/-- The arguments at the front of a text and the text behind them. The list is
there only if the text starts with its opening parenthesis and the parentheses
balance. -/
def argumentList? : Text → Option (List Text × Text)
  | '(' :: inner =>
      (scan .plain 0 inner).map fun scanned =>
        (if scanned.others.isEmpty && scanned.first.all Text.isBlank then []
          else scanned.arguments, scanned.rest)
  | _ => none

/-- What follows a name: its arguments, and the text behind them. A name without
an argument list has no arguments, and nothing behind it is consumed. -/
def argumentsOf (text : Text) : List Text × Text :=
  (argumentList? text).getD ([], text)

/-- The arguments found at a place of a text, and the byte offset behind them. -/
structure ParsedArguments where
  arguments : List Text
  stop : Nat
deriving DecidableEq, Repr

/-- Reads the argument list that starts at a byte offset. There is no answer when
the offset is no place of the text. -/
def parseArguments? (sql : Text) (offset : Nat) : Option ParsedArguments :=
  (Text.cutAt? sql offset).map fun (_, rest) =>
    let (arguments, behind) := argumentsOf rest
    { arguments, stop := offset + Text.utf8Length (Text.upTo rest behind) }

/-- The text behind a scanned list ends the text that was scanned. -/
theorem scan_rest_suffix {mode : Mode} {depth : Nat} {text : Text} {scanned : Scanned}
    (read : scan mode depth text = some scanned) : scanned.rest <:+ text := by
  fun_induction scan mode depth text generalizing scanned with
  | case1 => simp at read
  | case2 _ _ _ _ inductionHypothesis
  | case3 _ _ _ inductionHypothesis
  | case4 _ _ _ _ inductionHypothesis
  | case5 _ _ _ _ _ _ inductionHypothesis
  | case6 _ _ _ _ inductionHypothesis
  | case7 _ _ _ inductionHypothesis
  | case9 _ _ _ _ inductionHypothesis
  | case10 _ _ _ _ _ _ _ inductionHypothesis
  | case11 _ _ _ _ _ _ _ inductionHypothesis =>
    obtain ⟨inner, innerRead, rfl⟩ := Option.map_eq_some_iff.1 read
    exact (inductionHypothesis innerRead).trans (List.suffix_cons _ _)
  | case8 =>
    obtain rfl := Option.some.inj read
    exact List.suffix_cons _ _

/-- Each scanned argument is shorter than the text that was scanned, because at
least the closing parenthesis belongs to none. -/
theorem scan_argument_length {mode : Mode} {depth : Nat} {text : Text} {scanned : Scanned}
    (read : scan mode depth text = some scanned) :
    ∀ argument ∈ scanned.arguments, argument.length < text.length := by
  fun_induction scan mode depth text generalizing scanned with
  | case1 => simp at read
  | case2 _ _ _ _ inductionHypothesis
  | case3 _ _ _ inductionHypothesis
  | case4 _ _ _ _ inductionHypothesis
  | case5 _ _ _ _ _ _ inductionHypothesis
  | case6 _ _ _ _ inductionHypothesis
  | case7 _ _ _ inductionHypothesis
  | case9 _ _ _ _ inductionHypothesis
  | case10 _ _ _ _ _ _ _ inductionHypothesis
  | case11 _ _ _ _ _ _ _ inductionHypothesis =>
    obtain ⟨inner, innerRead, rfl⟩ := Option.map_eq_some_iff.1 read
    have shorter := inductionHypothesis innerRead
    simp only [Scanned.arguments, Scanned.keep, Scanned.split, List.forall_mem_cons,
      List.length_cons, List.length_nil] at shorter ⊢
    grind
  | case8 =>
    obtain rfl := Option.some.inj read
    simp [Scanned.arguments]

/-- What follows the arguments ends the text they were read from, and each
argument is shorter than that text. -/
theorem argumentsOf_bounds (text : Text) :
    (argumentsOf text).2 <:+ text ∧
      ∀ argument ∈ (argumentsOf text).1, argument.length < text.length := by
  unfold argumentsOf argumentList?
  split
  · next inner =>
    cases read : scan .plain 0 inner with
    | none => simp
    | some scanned =>
      refine ⟨(scan_rest_suffix read).trans (List.suffix_cons _ _), ?_⟩
      intro argument member
      have inScanned : argument ∈ scanned.arguments := by
        simp only [Option.map_some, Option.getD_some] at member
        split at member
        · simp at member
        · exact member
      have shorter := scan_argument_length read argument inScanned
      simp only [List.length_cons]
      omega
  · simp

end QueryMacros.Macro
