import QueryMacros.Number.Numeral
import QueryMacros.Number.Radix

/-!
# Tokens of JSON

A JSON text is a sequence of tokens with blanks between them: brackets, commas
and colons, the three literal words, numbers, and quoted texts. Only space, tab,
line feed and carriage return are blanks here.

An escape in a quoted text names a unit of UTF-16. Two units that form a pair
stand for one character. A unit of a pair that stands alone stands for none; such
a text is a token all the same, because it may be part of what a reader passes
over.
-/
namespace QueryMacros.Json

/-- A token of JSON. A text is missing if one of its escapes stands for no
character. -/
inductive Token where
  | openList
  | closeList
  | openRecord
  | closeRecord
  | comma
  | colon
  | null
  | boolean (value : Bool)
  | whole (value : Int)
  | number (literal : Text)
  | text (value : Option Text)
deriving DecidableEq, Repr

/-- A character that may stand between tokens. -/
def isBlank (c : Char) : Bool := c == ' ' || c == '\n' || c == '\t' || c == '\r'

/-- A part of a quoted text: a character, or a unit of UTF-16. -/
inductive Piece where
  | character (c : Char)
  | unit (code : Nat)
deriving DecidableEq, Repr

/-- The character of an escape of one letter. -/
def shortEscape? : Char → Option Char
  | '"' => some '"'
  | '\\' => some '\\'
  | '/' => some '/'
  | 'b' => some '\x08'
  | 'f' => some '\x0c'
  | 'n' => some '\n'
  | 'r' => some '\r'
  | 't' => some '\t'
  | _ => none

/-- The pieces of a quoted text behind its opening quote, and what follows its
closing quote. Control characters have to be escaped. -/
def quoted? : Text → Option (List Piece × Text)
  | [] => none
  | '"' :: rest => some ([], rest)
  | '\\' :: 'u' :: a :: b :: c :: d :: rest =>
      match Radix.value? 16 [a, b, c, d] with
      | some code => (quoted? rest).map fun (pieces, behind) => (.unit code :: pieces, behind)
      | none => none
  | '\\' :: letter :: rest =>
      match shortEscape? letter with
      | some c => (quoted? rest).map fun (pieces, behind) => (.character c :: pieces, behind)
      | none => none
  | c :: rest =>
      if c.toNat < 0x20 ∨ c = '\\' then none
      else (quoted? rest).map fun (pieces, behind) => (.character c :: pieces, behind)

/-- The character of a pair of units, if they form one. -/
def pair? (high low : Nat) : Option Char :=
  if 0xD800 ≤ high ∧ high < 0xDC00 ∧ 0xDC00 ≤ low ∧ low < 0xE000 then
    some (Char.ofNat (0x10000 + (high - 0xD800) * 0x400 + (low - 0xDC00)))
  else none

/-- The text of a list of pieces. There is none if a unit of a pair stands
alone. -/
def assemble? : List Piece → Option Text
  | [] => some []
  | .character c :: pieces => (assemble? pieces).map (c :: ·)
  | .unit high :: .unit low :: pieces =>
      match pair? high low with
      | some c => (assemble? pieces).map (c :: ·)
      | none =>
          if 0xD800 ≤ high ∧ high < 0xE000 then none
          else (assemble? (.unit low :: pieces)).map (Char.ofNat high :: ·)
  | .unit code :: pieces =>
      if 0xD800 ≤ code ∧ code < 0xE000 then none
      else (assemble? pieces).map (Char.ofNat code :: ·)

/-- A run of digits, one at least, and what follows it. -/
def digits? (text : Text) : Option (Text × Text) :=
  match text.takeWhile Numeral.isDigit with
  | [] => none
  | run => some (run, text.drop run.length)

/-- The whole part of a number: a zero, or digits that do not start with one. -/
def wholePart? : Text → Option (Text × Text)
  | '0' :: rest => some (['0'], rest)
  | text => digits? text

/-- The fraction of a number, which may be absent. -/
def fractionPart? : Text → Option (Text × Text)
  | '.' :: rest => (digits? rest).map fun (run, behind) => ('.' :: run, behind)
  | rest => some ([], rest)

/-- The exponent of a number, which may be absent. -/
def exponentPart? : Text → Option (Text × Text)
  | c :: rest =>
      if c = 'e' ∨ c = 'E' then
        match rest with
        | sign :: digits =>
            if sign = '+' ∨ sign = '-' then
              (digits? digits).map fun (run, behind) => (c :: sign :: run, behind)
            else (digits? rest).map fun (run, behind) => (c :: run, behind)
        | [] => none
      else some ([], c :: rest)
  | [] => some ([], [])

/-- A number and what follows it. An integer keeps its value, except for the
negative zero, which is no integer. -/
def number? (text : Text) : Option (Token × Text) := do
  let (sign, unsigned) : Text × Text := match text with
    | '-' :: rest => (['-'], rest)
    | rest => ([], rest)
  let (whole, rest) ← wholePart? unsigned
  let (fraction, rest) ← fractionPart? rest
  let (exponent, rest) ← exponentPart? rest
  let size : Int := Numeral.value whole
  let token : Token :=
    if !fraction.isEmpty || !exponent.isEmpty || (!sign.isEmpty && size == 0) then
      .number (sign ++ whole ++ fraction ++ exponent)
    else .whole (if sign.isEmpty then size else -size)
  return (token, rest)

/-- The token at the front of a text that starts with no blank, and what follows
it. -/
def token? : Text → Option (Token × Text)
  | '[' :: rest => some (.openList, rest)
  | ']' :: rest => some (.closeList, rest)
  | '\x7b' :: rest => some (.openRecord, rest)
  | '\x7d' :: rest => some (.closeRecord, rest)
  | ',' :: rest => some (.comma, rest)
  | ':' :: rest => some (.colon, rest)
  | 'n' :: 'u' :: 'l' :: 'l' :: rest => some (.null, rest)
  | 't' :: 'r' :: 'u' :: 'e' :: rest => some (.boolean true, rest)
  | 'f' :: 'a' :: 'l' :: 's' :: 'e' :: rest => some (.boolean false, rest)
  | '"' :: rest => (quoted? rest).map fun (pieces, behind) => (.text (assemble? pieces), behind)
  | text => number? text

/-- What follows a quoted text is shorter than the text it was read from. -/
theorem quoted?_length {text rest : Text} {pieces : List Piece}
    (read : quoted? text = some (pieces, rest)) : rest.length < text.length := by
  fun_induction quoted? text generalizing pieces with
  | case1 => simp at read
  | case2 =>
    obtain ⟨_, rfl⟩ := Prod.mk.inj (Option.some.inj read)
    simp
  | case3 _ _ _ _ _ _ _ inductionHypothesis
  | case5 _ _ _ _ _ inductionHypothesis
  | case8 _ _ _ _ _ _ inductionHypothesis =>
    obtain ⟨⟨_, _⟩, inner, same⟩ := Option.map_eq_some_iff.1 read
    obtain ⟨_, rfl⟩ := Prod.mk.inj same
    have shorter := inductionHypothesis inner
    simp only [List.length_cons]
    omega
  | case4 | case6 | case7 => simp at read

/-- A run of digits takes a character at least. -/
theorem digits?_length {text run rest : Text} (read : digits? text = some (run, rest)) :
    rest.length < text.length := by
  unfold digits? at read
  split at read
  · simp at read
  · next taken nonempty =>
    obtain ⟨rfl, rfl⟩ := Prod.mk.inj (Option.some.inj read)
    have bound : (text.takeWhile Numeral.isDigit).length ≤ text.length :=
      (List.takeWhile_prefix _).length_le
    have positive : 0 < (text.takeWhile Numeral.isDigit).length :=
      List.length_pos_iff.2 nonempty
    rw [List.length_drop]
    omega

/-- The whole part of a number takes a character at least. -/
theorem wholePart?_length {text run rest : Text} (read : wholePart? text = some (run, rest)) :
    rest.length < text.length := by
  unfold wholePart? at read
  split at read
  · obtain ⟨_, rfl⟩ := Prod.mk.inj (Option.some.inj read)
    simp
  · exact digits?_length read

/-- A fraction may be absent, but nothing is put back. -/
theorem fractionPart?_length {text run rest : Text}
    (read : fractionPart? text = some (run, rest)) : rest.length ≤ text.length := by
  unfold fractionPart? at read
  split at read
  · obtain ⟨⟨_, _⟩, inner, same⟩ := Option.map_eq_some_iff.1 read
    obtain ⟨_, rfl⟩ := Prod.mk.inj same
    have shorter := digits?_length inner
    simp only [List.length_cons]
    omega
  · obtain ⟨_, rfl⟩ := Prod.mk.inj (Option.some.inj read)
    exact Nat.le_refl _

/-- An exponent may be absent, but nothing is put back. -/
theorem exponentPart?_length {text run rest : Text}
    (read : exponentPart? text = some (run, rest)) : rest.length ≤ text.length := by
  unfold exponentPart? at read
  split at read
  · split at read
    · split at read
      · split at read
        all_goals
          obtain ⟨⟨_, _⟩, inner, same⟩ := Option.map_eq_some_iff.1 read
          obtain ⟨_, rfl⟩ := Prod.mk.inj same
          have shorter := digits?_length inner
          simp only [List.length_cons] at shorter ⊢
          omega
      · simp at read
    · obtain ⟨_, rfl⟩ := Prod.mk.inj (Option.some.inj read)
      exact Nat.le_refl _
  · obtain ⟨_, rfl⟩ := Prod.mk.inj (Option.some.inj read)
    exact Nat.le_refl _

/-- A number takes a character at least: its whole part is never empty. -/
theorem number?_length {text rest : Text} {token : Token}
    (read : number? text = some (token, rest)) : rest.length < text.length := by
  simp only [number?, Option.bind_eq_bind, Option.bind_eq_some_iff, Prod.exists,
    Option.pure_def, Option.some.injEq, Prod.mk.injEq] at read
  obtain ⟨whole, afterWhole, wholeRead, fraction, afterFraction, fractionRead, exponent,
    afterExponent, exponentRead, _, rfl⟩ := read
  have first := wholePart?_length wholeRead
  have second := fractionPart?_length fractionRead
  have third := exponentPart?_length exponentRead
  have unsigned : (match text with
      | '-' :: rest => ((['-'], rest) : Text × Text)
      | rest => ([], rest)).2.length ≤ text.length := by
    split <;> simp
  omega

/-- What follows a token is shorter than the text it was read from. -/
theorem token?_length {text rest : Text} {token : Token}
    (read : token? text = some (token, rest)) : rest.length < text.length := by
  unfold token? at read
  split at read
  case h_10 =>
    obtain ⟨⟨_, _⟩, inner, same⟩ := Option.map_eq_some_iff.1 read
    obtain ⟨_, rfl⟩ := Prod.mk.inj same
    have shorter := quoted?_length inner
    simp only [List.length_cons]
    omega
  case h_11 => exact number?_length read
  all_goals
    obtain ⟨_, rfl⟩ := Prod.mk.inj (Option.some.inj read)
    simp only [List.length_cons]
    omega

/-- The tokens of a text, blanks between them left out. -/
def tokens? (text : Text) : Option (List Token) :=
  let start := text.dropWhile isBlank
  if start.isEmpty then some []
  else match _found : token? start with
    | some (token, rest) => (tokens? rest).map (token :: ·)
    | none => none
termination_by text.length
decreasing_by
  have shorter := token?_length ‹_›
  have bound : start.length ≤ text.length := (List.dropWhile_suffix isBlank).length_le
  omega

end QueryMacros.Json
