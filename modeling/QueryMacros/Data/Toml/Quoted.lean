import QueryMacros.Data.Toml.Gap
import QueryMacros.Number.Radix

/-!
# Quoted texts of TOML

A text stands between double quotes, where a backslash starts an escape, or
between single quotes, where every character stands for itself. Between quotes
that are tripled a text may run over several lines. A line end right behind the
opening quotes is left out, and every other one belongs to the text the way it was
written. Up to two quotes more than the closing three belong to the text.
-/
namespace QueryMacros.Toml

open Text (Reading)
open Text.Reading (character mark repeated run)

/-- The character of an escape of one letter. -/
def shortEscape? : Char → Option Char
  | 'b' => some '\x08'
  | 't' => some '\t'
  | 'n' => some '\n'
  | 'f' => some '\x0c'
  | 'r' => some '\r'
  | 'e' => some '\x1b'
  | '"' => some '"'
  | '\\' => some '\\'
  | _ => none

/-- Takes the code point of an escape, written with the given number of digits. -/
def codePoint (length : Nat) : Reading Char := do
  let text ← get
  let digits := text.take length
  if digits.length < length then failure
  set (text.drop length)
  match Radix.value? 16 digits with
  | some code => if code.isValidChar then return Char.ofNat code else failure
  | none => failure

/-- Takes an escape behind its backslash. -/
def escape : Reading Char := do
  match ← character fun _ => true with
  | 'x' => codePoint 2
  | 'u' => codePoint 4
  | 'U' => codePoint 8
  | letter => (shortEscape? letter : Option Char)

/-- Takes a text between double quotes behind the opening one. -/
def basic : Reading Text :=
  repeated do
    match ← character fun _ => true with
    | '"' => return none
    | '\\' => return some (← escape)
    | c => if isPermitted c then return some c else failure

/-- Takes a text between single quotes behind the opening one. -/
def literal : Reading Text := do
  let text ← run fun c => isPermitted c && c != '\''
  mark '\''
  return text

/-- Takes a character or a line end that stands for itself. -/
def plainPiece : Reading Text := do
  match ← character fun _ => true with
  | '\n' => return ['\n']
  | '\r' => do
      mark '\n'
      return ['\r', '\n']
  | c => if isPermitted c then return [c] else failure

/-- What follows the blanks and line ends at the front of a text. -/
def behindLines : Text → Text
  | '\r' :: '\n' :: rest => behindLines rest
  | c :: rest => if isBlank c || c == '\n' then behindLines rest else c :: rest
  | [] => []

/-- Takes a piece in which a backslash starts an escape. At the end of a line it
takes the line end away, together with the blanks and empty lines that follow. -/
def escapedPiece : Reading Text := do
  match ← get with
  | '\\' :: rest =>
      let behind := rest.dropWhile isBlank
      if !behind.isEmpty && atLineEnd behind then
        set (behindLines behind)
        return []
      else
        set rest
        return [← escape]
  | _ => plainPiece

/-- Takes a text between tripled quotes behind the opening ones. -/
def multiline (quote : Char) (piece : Reading Text) : Reading Text := do
  match ← get with
  | '\n' :: rest => set rest
  | '\r' :: '\n' :: rest => set rest
  | _ => pure ()
  let pieces ← repeated do
    match Text.behind? [quote, quote, quote] (← get) with
    | some rest => do
        set rest
        return none
    | none => return some (← piece)
  let behind ← get
  let further := (behind.take 2).takeWhile (· == quote)
  set (behind.drop further.length)
  return pieces.flatten ++ further

/-- Takes a quoted text on one line. -/
def quotedLine : Reading Text := do
  match ← character fun _ => true with
  | '"' => basic
  | '\'' => literal
  | _ => failure

/-- Takes a quoted text. -/
def quoted : Reading Text := do
  match ← get with
  | '"' :: '"' :: '"' :: rest => do
      set rest
      multiline '"' escapedPiece
  | '\'' :: '\'' :: '\'' :: rest => do
      set rest
      multiline '\'' plainPiece
  | _ => quotedLine

end QueryMacros.Toml
