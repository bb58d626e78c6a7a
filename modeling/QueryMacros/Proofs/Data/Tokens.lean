import QueryMacros.Data.Json.Writer
import QueryMacros.Proofs.Text.Trim

/-!
# Tokens of written data

Each part of written data begins with the token that it is read back as, and what follows
it is left as it was. That needs no care for brackets, words and quoted texts, which end by
themselves. A number ends where no digit, point or exponent follows, so the rest has to
begin with a mark that ends a value, or be empty.
-/
namespace QueryMacros.Json

open Numeral (isDigit)

/-! ## Quoted texts -/

/-- What a character inside quotes is read as: itself, or the unit of its escape. -/
def pieceOf (c : Char) : Piece :=
  if c.toNat < 0x20 ∧ c ∉ ['\x08', '\x0c', '\n', '\r', '\t'] then .unit c.toNat else .character c

/-- The two digits of a control character are read as its code. -/
theorem value?_escape {code : Nat} (control : code < 0x20) :
    Radix.value? 16 ['0', '0', Radix.digit (code / 16), Radix.digit (code % 16)] = some code := by
  revert code
  decide

/-- A character is read behind the way it is written inside quotes. There are seven
characters with an escape of their own, the other control characters, which are written by
their code, and all that is written as it is. -/
theorem quoted?_writeCharacter (c : Char) (rest : Text) :
    quoted? (writeCharacter c ++ rest) =
      (quoted? rest).map fun (pieces, behind) => (pieceOf c :: pieces, behind) := by
  by_cases common : c ∈ ['"', '\\', '\x08', '\x0c', '\n', '\r', '\t']
  · simp only [List.mem_cons, List.not_mem_nil, or_false] at common
    rcases common with rfl | rfl | rfl | rfl | rfl | rfl | rfl <;> rfl
  · simp only [List.mem_cons, List.not_mem_nil, or_false, not_or] at common
    obtain ⟨quote, backslash, back, feed, line, carriage, tab⟩ := common
    by_cases control : c.toNat < 0x20
    · have written : writeCharacter c =
          ['\\', 'u', '0', '0', Radix.digit (c.toNat / 16), Radix.digit (c.toNat % 16)] := by
        simp [writeCharacter, quote, backslash, back, feed, line, carriage, tab, control]
      have piece : pieceOf c = .unit c.toNat := by
        simp [pieceOf, control, back, feed, line, carriage, tab]
      rw [written, piece]
      simp only [List.cons_append, List.nil_append, quoted?, value?_escape control]
    · have written : writeCharacter c = [c] := by
        simp [writeCharacter, quote, backslash, back, feed, line, carriage, tab, control]
      have piece : pieceOf c = .character c := by
        simp [pieceOf, control]
      have plain : ¬ (c.toNat < 0x20 ∨ c = '\\') := by simp [control, backslash]
      rw [written, piece, List.singleton_append, quoted?.eq_def]
      split
      · next same => cases same
      · next same => exact absurd (List.cons.inj same).1 quote
      · next same => exact absurd (List.cons.inj same).1 backslash
      · next same => exact absurd (List.cons.inj same).1 backslash
      · next same =>
        obtain ⟨rfl, rfl⟩ := List.cons.inj same
        rw [if_neg plain]

/-- A written text is read up to its closing quote. -/
theorem quoted?_write (text rest : Text) :
    quoted? (text.flatMap writeCharacter ++ '"' :: rest) = some (text.map pieceOf, rest) := by
  induction text with
  | nil => rfl
  | cons c text inductionHypothesis =>
    rw [List.flatMap_cons, List.append_assoc, quoted?_writeCharacter, inductionHypothesis]
    rfl

/-- A control character stands for itself and is no part of a pair. -/
theorem assemble?_pieceOf (c : Char) (pieces : List Piece) :
    assemble? (pieceOf c :: pieces) = (assemble? pieces).map (c :: ·) := by
  by_cases escaped : c.toNat < 0x20 ∧ c ∉ ['\x08', '\x0c', '\n', '\r', '\t']
  · have single : ¬ (0xD800 ≤ c.toNat ∧ c.toNat < 0xE000) := by omega
    have itself : Char.ofNat c.toNat = c := Char.ofNat_toNat c
    rw [pieceOf, if_pos escaped]
    cases pieces with
    | nil => simp [assemble?, single, itself]
    | cons piece pieces =>
      cases piece with
      | character d => simp [assemble?, single, itself]
      | unit low =>
        have noPair : pair? c.toNat low = none := by
          rw [pair?, if_neg]
          omega
        simp only [assemble?, noPair, single, ↓reduceIte, itself]
  · rw [pieceOf, if_neg escaped, assemble?]

/-- The characters of a text, escaped or not, join to the text. -/
theorem assemble?_pieces (text : Text) : assemble? (text.map pieceOf) = some text := by
  induction text with
  | nil => rfl
  | cons c text inductionHypothesis =>
    rw [List.map_cons, assemble?_pieceOf, inductionHypothesis]
    rfl

/-! ## Numbers -/

/-- A value ends in front of the text: there is none, or a mark that follows values. -/
def Ends (rest : Text) : Prop := ∀ c ∈ rest.head?, c = ',' ∨ c = ']' ∨ c = '\x7d'

/-- What follows a value begins with none but the three marks. -/
theorem Ends.head_ne {c : Char} {rest : Text} (ends : Ends (c :: rest)) (other : Char)
    (different : other ≠ ',' ∧ other ≠ ']' ∧ other ≠ '\x7d') : c ≠ other := by
  rintro rfl
  rcases ends c rfl with comma | bracket | brace
  · exact different.1 comma
  · exact different.2.1 bracket
  · exact different.2.2 brace

/-- No digit follows a value, so a number is not read on. -/
theorem Ends.not_digit {c : Char} {rest : Text} (ends : Ends (c :: rest)) : isDigit c = false := by
  rcases ends c rfl with rfl | rfl | rfl <;> decide

/-- A run of digits is read up to the end of a value. -/
theorem digits?_append {run rest : Text} (filled : run ≠ []) (digits : ∀ c ∈ run, isDigit c = true)
    (ends : Ends rest) : digits? (run ++ rest) = some (run, rest) := by
  have stops : rest.head?.any isDigit = false := by
    cases rest with
    | nil => rfl
    | cons c rest => exact ends.not_digit
  have taken := takeWhile_append_of_stops digits stops
  obtain ⟨c, others, rfl⟩ := List.exists_cons_of_ne_nil filled
  unfold digits?
  simp only [taken, List.drop_left]

/-- A number begins with a digit, which is a zero for zero alone. -/
theorem write_head (value : Nat) :
    ∃ c digits, Numeral.write value = c :: digits ∧ isDigit c = true ∧
      (c = '0' → digits = [] ∧ value = 0) := by
  fun_induction Numeral.write value with
  | case1 value small =>
    refine ⟨_, _, rfl, Numeral.digit_isDigit small, fun zero => ⟨rfl, ?_⟩⟩
    have same := congrArg Numeral.digitValue zero
    rw [Numeral.digitValue_digit small] at same
    exact same
  | case2 value large inductionHypothesis =>
    obtain ⟨c, digits, written, digit, zero⟩ := inductionHypothesis
    rw [written]
    refine ⟨c, digits ++ [Numeral.digit (value % 10)], rfl, digit, fun same => ?_⟩
    have vanished := (zero same).2
    omega

/-- A written number is read whole, up to where the value ends. -/
theorem wholePart?_write (value : Nat) {rest : Text} (ends : Ends rest) :
    wholePart? (Numeral.write value ++ rest) = some (Numeral.write value, rest) := by
  have run := digits?_append (Numeral.write_ne_nil value)
    (fun c member => Numeral.isDigit_of_mem_write member) ends
  obtain ⟨c, digits, written, -, zero⟩ := write_head value
  rw [written] at run ⊢
  by_cases leading : c = '0'
  · obtain ⟨rfl, -⟩ := zero leading
    rw [leading]
    rfl
  · unfold wholePart?
    split
    · next same => exact absurd (List.cons.inj same).1 leading
    · exact run

/-- There is no fraction where a value ends. -/
theorem fractionPart?_of_ends {rest : Text} (ends : Ends rest) :
    fractionPart? rest = some ([], rest) := by
  cases rest with
  | nil => rfl
  | cons c rest =>
    unfold fractionPart?
    split
    · next same =>
      exact absurd (List.cons.inj same).1 (ends.head_ne '.' (by decide))
    · rfl

/-- There is no exponent where a value ends. -/
theorem exponentPart?_of_ends {rest : Text} (ends : Ends rest) :
    exponentPart? rest = some ([], rest) := by
  cases rest with
  | nil => rfl
  | cons c rest =>
    have lower := ends.head_ne 'e' (by decide)
    have upper := ends.head_ne 'E' (by decide)
    simp [exponentPart?, lower, upper]

/-- A written integer is read back where the value ends. The sign is taken off first, and
then the whole part is all that is left of the number. -/
theorem number?_writeInt (value : Int) {rest : Text} (ends : Ends rest) :
    number? (Numeral.writeInt value ++ rest) = some (.whole value, rest) := by
  obtain ⟨magnitude, counted⟩ : ∃ magnitude, value.natAbs = magnitude := ⟨_, rfl⟩
  have whole := wholePart?_write magnitude ends
  have size := Numeral.value_write magnitude
  have fraction := fractionPart?_of_ends ends
  have exponent := exponentPart?_of_ends ends
  unfold Numeral.writeInt
  rw [counted]
  by_cases negative : value < 0
  · have nonzero : magnitude ≠ 0 := by omega
    have same : -(magnitude : Int) = value := by omega
    rw [if_pos negative]
    simp [number?, whole, fraction, exponent, size, nonzero, same]
  · have same : (magnitude : Int) = value := by omega
    have unsigned : ∀ digits, Numeral.write magnitude ++ rest ≠ '-' :: digits := by
      intro digits signed
      obtain ⟨c, others, written, digit, -⟩ := write_head magnitude
      rw [written] at signed
      rw [(List.cons.inj signed).1] at digit
      cases digit
    rw [if_neg negative]
    generalize Numeral.write magnitude = digits at whole size unsigned ⊢
    generalize digits ++ rest = text at whole unsigned ⊢
    simp [number?, whole, fraction, exponent, size, same]

/-! ## Single tokens -/

/-- Behind a token the reading goes on, blanks in front of the token apart. -/
theorem tokens?_of_token {text rest : Text} {token : Token}
    (found : token? text = some (token, rest)) :
    tokens? text = (tokens? rest).map (token :: ·) := by
  have solid : text.dropWhile isBlank = text ∧ text.isEmpty = false := by
    cases text with
    | nil => cases found
    | cons c text =>
      refine ⟨?_, rfl⟩
      by_cases blank : isBlank c = true
      · have blanks : c = ' ' ∨ c = '\n' ∨ c = '\t' ∨ c = '\r' := by
          simpa [isBlank, or_assoc] using blank
        rcases blanks with rfl | rfl | rfl | rfl <;> cases found
      · exact List.dropWhile_cons_of_neg blank
  rw [tokens?]
  simp only [solid.1, solid.2, Bool.false_eq_true, ↓reduceIte]
  split
  · next same =>
    rw [solid.1] at same
    obtain ⟨rfl, rfl⟩ := Prod.mk.inj (Option.some.inj (found.symm.trans same))
    rfl
  · next missing =>
    rw [solid.1, found] at missing
    cases missing

/-- A written text is one token. -/
theorem token?_writeText (text rest : Text) :
    token? (writeText text ++ rest) = some (.text (some text), rest) := by
  have quoted := quoted?_write text rest
  have written : writeText text ++ rest = '"' :: (text.flatMap writeCharacter ++ '"' :: rest) := by
    simp [writeText]
  rw [written]
  simp [token?, quoted, assemble?_pieces]

/-- What begins with a sign or a digit is read as a number. -/
theorem token?_of_numeral {c : Char} (mark : c = '-' ∨ isDigit c = true) (text : Text) :
    token? (c :: text) = number? (c :: text) := by
  have different (other : Char) (outside : other ≠ '-' ∧ isDigit other = false) : c ≠ other := by
    rintro rfl
    rcases mark with sign | digit
    · exact outside.1 sign
    · rw [outside.2] at digit
      cases digit
  unfold token?
  split
  case h_11 => rfl
  all_goals
    next same => exact absurd (List.cons.inj same).1 (different _ (by decide))

/-- A written integer is one token, in front of whatever may follow a value. -/
theorem token?_writeInt (value : Int) {rest : Text} (ends : Ends rest) :
    token? (Numeral.writeInt value ++ rest) = some (.whole value, rest) := by
  have number := number?_writeInt value ends
  have front : ∃ c text, Numeral.writeInt value = c :: text ∧ (c = '-' ∨ isDigit c = true) := by
    unfold Numeral.writeInt
    by_cases negative : value < 0
    · rw [if_pos negative]
      exact ⟨'-', _, rfl, Or.inl rfl⟩
    · obtain ⟨c, digits, written, digit, -⟩ := write_head value.natAbs
      rw [if_neg negative, written]
      exact ⟨c, digits, rfl, Or.inr digit⟩
  obtain ⟨c, text, written, mark⟩ := front
  rw [written] at number ⊢
  rw [List.cons_append] at number ⊢
  rw [token?_of_numeral mark, number]

/-! ## Trees -/

/-- A tree that is written as it is: every text and name in it is well formed, and its
numbers are integers. -/
inductive Plain : Data → Prop
  | null : Plain .null
  | boolean (value : Bool) : Plain (.boolean value)
  | whole (value : Int) : Plain (.whole value)
  | text (value : Text) : Plain (.text value)
  | list {items : List Data} (each : ∀ item ∈ items, Plain item) : Plain (.list items)
  | record {fields : List (Option Text × Data)} (named : ∀ field ∈ fields, field.1.isSome = true)
      (each : ∀ field ∈ fields, Plain field.2) : Plain (.record fields)

mutual

/-- The tokens of a tree as it is written. -/
def tokensOf : Data → List Token
  | .null | .malformed | .outOfRange => [.null]
  | .boolean value => [.boolean value]
  | .whole value => [.whole value]
  | .number literal => [.number literal]
  | .text value => [.text (some value)]
  | .list items => .openList :: itemTokens items ++ [.closeList]
  | .record fields => .openRecord :: fieldTokens fields ++ [.closeRecord]

/-- The tokens of the items of a list. -/
def itemTokens : List Data → List Token
  | [] => []
  | [item] => tokensOf item
  | item :: items => tokensOf item ++ .comma :: itemTokens items

/-- The tokens of the fields of a record. -/
def fieldTokens : List (Option Text × Data) → List Token
  | [] => []
  | [(name, value)] => .text (some (name.getD [])) :: .colon :: tokensOf value
  | (name, value) :: fields =>
      .text (some (name.getD [])) :: .colon :: tokensOf value ++ .comma :: fieldTokens fields

end

/-- The tokens of a written tree are read, and then those of what follows it. -/
def Lexed (data : Data) : Prop :=
  ∀ rest, Ends rest → tokens? (write data ++ rest) = (tokens? rest).map (tokensOf data ++ ·)

/-- A value ends in front of each of the three marks. -/
theorem ends_cons {c : Char} (mark : c = ',' ∨ c = ']' ∨ c = '\x7d') (rest : Text) :
    Ends (c :: rest) := by
  intro d head
  obtain rfl := Option.some.inj head
  exact mark

/-- The first item of several is written with a comma behind it. -/
theorem writeItems_cons_cons (item second : Data) (items : List Data) :
    writeItems (item :: second :: items) = write item ++ ',' :: writeItems (second :: items) := by
  rw [writeItems]
  simp

/-- The tokens of the first item of several stand in front of a comma. -/
theorem itemTokens_cons_cons (item second : Data) (items : List Data) :
    itemTokens (item :: second :: items) =
      tokensOf item ++ .comma :: itemTokens (second :: items) := by
  rw [itemTokens]
  simp

/-- The first field of several is written with a comma behind it. -/
theorem writeFields_cons_cons (name : Option Text) (value : Data)
    (second : Option Text × Data) (fields : List (Option Text × Data)) :
    writeFields ((name, value) :: second :: fields) = writeText (name.getD []) ++
      ':' :: write value ++ ',' :: writeFields (second :: fields) := by
  rw [writeFields]
  simp

/-- The tokens of the first field of several stand in front of a comma. -/
theorem fieldTokens_cons_cons (name : Option Text) (value : Data)
    (second : Option Text × Data) (fields : List (Option Text × Data)) :
    fieldTokens ((name, value) :: second :: fields) = .text (some (name.getD [])) :: .colon ::
      tokensOf value ++ .comma :: fieldTokens (second :: fields) := by
  rw [fieldTokens]
  simp

/-- The items of a list are read up to its end. -/
theorem tokens?_writeItems {items : List Data} (each : ∀ item ∈ items, Lexed item) (rest : Text) :
    tokens? (writeItems items ++ ']' :: rest) =
      (tokens? rest).map (itemTokens items ++ .closeList :: ·) := by
  have closing : tokens? (']' :: rest) = (tokens? rest).map (.closeList :: ·) :=
    tokens?_of_token rfl
  induction items with
  | nil => exact closing
  | cons item items inductionHypothesis =>
    obtain ⟨here, there⟩ := List.forall_mem_cons.1 each
    cases items with
    | nil =>
      have ends := ends_cons (Or.inr (Or.inl rfl)) rest
      rw [writeItems, itemTokens, here _ ends, closing, Option.map_map]
      rfl
    | cons second items =>
      have ends := ends_cons (Or.inl rfl) (writeItems (second :: items) ++ ']' :: rest)
      have comma := tokens?_of_token (show token? (',' :: (writeItems (second :: items) ++
        ']' :: rest)) = some (.comma, _) from rfl)
      rw [writeItems_cons_cons, itemTokens_cons_cons, List.append_assoc, List.cons_append,
        here _ ends, comma, inductionHypothesis there, Option.map_map, Option.map_map]
      simp only [Function.comp_def, List.append_assoc, List.cons_append]

/-- The fields of a record are read up to its end. -/
theorem tokens?_writeFields {fields : List (Option Text × Data)}
    (each : ∀ field ∈ fields, Lexed field.2) (rest : Text) :
    tokens? (writeFields fields ++ '\x7d' :: rest) =
      (tokens? rest).map (fieldTokens fields ++ .closeRecord :: ·) := by
  have closing : tokens? ('\x7d' :: rest) = (tokens? rest).map (.closeRecord :: ·) :=
    tokens?_of_token rfl
  induction fields with
  | nil => exact closing
  | cons field fields inductionHypothesis =>
    obtain ⟨here, there⟩ := List.forall_mem_cons.1 each
    obtain ⟨name, value⟩ := field
    have named (text : Text) : tokens? (writeText (name.getD []) ++ ':' :: text) =
        (tokens? text).map fun tokens => .text (some (name.getD [])) :: .colon :: tokens := by
      have colon := tokens?_of_token (show token? (':' :: text) = some (.colon, text) from rfl)
      rw [tokens?_of_token (token?_writeText _ _), colon, Option.map_map]
      rfl
    cases fields with
    | nil =>
      have ends := ends_cons (Or.inr (Or.inr rfl)) rest
      rw [writeFields, fieldTokens, List.append_assoc, List.cons_append, named, here _ ends,
        closing, Option.map_map, Option.map_map]
      rfl
    | cons second fields =>
      have ends := ends_cons (Or.inl rfl) (writeFields (second :: fields) ++ '\x7d' :: rest)
      have comma := tokens?_of_token (show token? (',' :: (writeFields (second :: fields) ++
        '\x7d' :: rest)) = some (.comma, _) from rfl)
      rw [writeFields_cons_cons, fieldTokens_cons_cons]
      simp only [List.append_assoc, List.cons_append]
      rw [named, here _ ends, comma, inductionHypothesis there]
      simp only [Option.map_map, Function.comp_def]

/-- Every plain tree is read token by token as it was written. The induction is on the
tree; a list and a record are read up to their closing marks, with what follows left for
later. -/
theorem Plain.lexed {data : Data} (plain : Plain data) : Lexed data := by
  induction plain with
  | null =>
    intro rest _
    exact tokens?_of_token rfl
  | boolean value =>
    intro rest _
    cases value <;> exact tokens?_of_token rfl
  | whole value =>
    intro rest ends
    rw [write]
    exact tokens?_of_token (token?_writeInt value ends)
  | text value =>
    intro rest _
    rw [write]
    exact tokens?_of_token (token?_writeText value rest)
  | @list items _ each =>
    intro rest _
    have opening := tokens?_of_token (show token? ('[' :: (writeItems items ++ ']' :: rest)) =
      some (.openList, _) from rfl)
    rw [write, tokensOf]
    simp only [List.append_assoc, List.cons_append, List.nil_append]
    rw [opening, tokens?_writeItems each, Option.map_map]
    rfl
  | @record fields _ _ each =>
    intro rest _
    have opening := tokens?_of_token (show token? ('\x7b' :: (writeFields fields ++
      '\x7d' :: rest)) = some (.openRecord, _) from rfl)
    rw [write, tokensOf]
    simp only [List.append_assoc, List.cons_append, List.nil_append]
    rw [opening, tokens?_writeFields each, Option.map_map]
    rfl

/-- A written tree is read as its tokens. -/
theorem Plain.tokens?_write {data : Data} (plain : Plain data) :
    tokens? (write data) = some (tokensOf data) := by
  have whole := plain.lexed [] (by intro c head; cases head)
  have nothing : tokens? [] = some [] := by
    rw [tokens?]
    rfl
  rw [List.append_nil, nothing] at whole
  simpa using whole

end QueryMacros.Json
