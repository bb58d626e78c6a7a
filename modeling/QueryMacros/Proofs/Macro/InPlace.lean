import QueryMacros.Proofs.Macro.ArgumentList
import QueryMacros.Proofs.Macro.Rewriting
import QueryMacros.Proofs.Text.Slice

/-!
# Reading in place

An argument list can be read where it stands, by a count of the parentheses that are open
and by byte offsets: where the current argument starts, and where the next character is.
Such a reading can go wrong. It can close a parenthesis that was never opened, and it can
take a part of the text between offsets that are out of order or inside a character. Here
each of these is a fault that ends the reading. None of them ever comes up: behind the
parenthesis that opens the list the count is one at least until the list is closed, and
the two offsets enclose the part of the argument that was read so far.
-/
namespace QueryMacros.Macro

/-- What ends a run at byte offsets before its time. -/
inductive Fault where
  /-- A parenthesis is closed, and none is open. -/
  | unopened
  /-- A part of a text is taken between offsets that are not places of it in order. -/
  | slice (start stop : Nat)
  /-- A step leaves as much text to search as there was. -/
  | standstill
deriving DecidableEq, Repr

/-- The part of a text between two byte offsets. -/
def sliceOf (text : Text) (start stop : Nat) : Except Fault Text :=
  match Text.slice? text start stop with
  | some part => .ok part
  | none => .error (.slice start stop)

/-- How far the reading of a list has come: how the next character is read, how many
parentheses are open, that of the list included, the offset where the current argument
starts, and the arguments before it. -/
structure Progress where
  mode : Mode
  depth : Nat
  start : Nat
  arguments : List Text
deriving DecidableEq, Repr

/-- The arguments that a list holds. One that is blank does not count if it is the only
one. -/
def occupied : List Text → List Text
  | [argument] => if argument.all Text.isBlank then [] else [argument]
  | arguments => arguments

/-- Reads a list on from the character at an offset. It gives the arguments and the offset
behind the list, if the list is closed. -/
def readOn (list : Text) : Progress → Nat → Text → Except Fault (Option (List Text × Nat))
  | _, _, [] => return none
  | ⟨.escaped quote, depth, start, arguments⟩, offset, c :: rest =>
      readOn list ⟨.quoted quote, depth, start, arguments⟩ (offset + c.utf8Size) rest
  | ⟨.quoted quote, depth, start, arguments⟩, offset, c :: rest =>
      if c = '\\' then
        readOn list ⟨.escaped quote, depth, start, arguments⟩ (offset + c.utf8Size) rest
      else if c = quote then
        readOn list ⟨.plain, depth, start, arguments⟩ (offset + c.utf8Size) rest
      else readOn list ⟨.quoted quote, depth, start, arguments⟩ (offset + c.utf8Size) rest
  | ⟨.plain, depth, start, arguments⟩, offset, c :: rest =>
      if isQuote c then
        readOn list ⟨.quoted c, depth, start, arguments⟩ (offset + c.utf8Size) rest
      else if c = '(' then
        readOn list ⟨.plain, depth + 1, start, arguments⟩ (offset + c.utf8Size) rest
      else if c = ')' then
        match depth with
        | 0 => throw .unopened
        | 1 => do
            let argument ← sliceOf list start offset
            return some (occupied (arguments ++ [argument]), offset + 1)
        | outer + 2 =>
            readOn list ⟨.plain, outer + 1, start, arguments⟩ (offset + c.utf8Size) rest
      else if c = ',' ∧ depth = 1 then do
        let argument ← sliceOf list start offset
        readOn list ⟨.plain, depth, offset + 1, arguments ++ [argument]⟩ (offset + c.utf8Size) rest
      else readOn list ⟨.plain, depth, start, arguments⟩ (offset + c.utf8Size) rest

/-- Reads the argument list that starts at a byte offset, in place. -/
def readInPlace (sql : Text) (offset : Nat) : Except Fault ParsedArguments := do
  let list ← sliceOf sql offset (Text.utf8Length sql)
  if list.head? = some '(' then
    match ← readOn list ⟨.plain, 0, 1, []⟩ 0 list with
    | some (arguments, stop) => return ⟨arguments, offset + stop⟩
    | none => return ⟨[], offset⟩
  else return ⟨[], offset⟩

/-- The first invocation of a name at or behind a byte offset, with its arguments read in
place. -/
def findInPlace (name sql : Text) (offset : Nat) : Except Fault (Option Invocation) := do
  let before ← sliceOf sql 0 offset
  let after ← sliceOf sql offset (Text.utf8Length sql)
  match locate? name before.getLast? after with
  | none => return none
  | some (between, _) =>
      let start := offset + Text.utf8Length between
      let parsed ← readInPlace sql (start + Text.utf8Length name)
      return some ⟨name, start, parsed.stop, parsed.arguments⟩

/-! ## Lists -/

/-- The part between two texts is found between their bounds. -/
theorem sliceOf_append (before part behind : Text) :
    sliceOf (before ++ part ++ behind) (Text.utf8Length before)
      (Text.utf8Length (before ++ part)) = .ok part := by
  rw [sliceOf, Text.slice?_append]

/-- The part behind a text runs from its bound to the end. -/
theorem sliceOf_behind (before after : Text) :
    sliceOf (before ++ after) (Text.utf8Length before) (Text.utf8Length (before ++ after)) =
      .ok after := by
  simpa using sliceOf_append before after []

/-- The part in front of a text runs from zero to its bound. -/
theorem sliceOf_front (before after : Text) :
    sliceOf (before ++ after) 0 (Text.utf8Length before) = .ok before :=
  sliceOf_append [] before after

/-- A character inside an argument is passed over. The count of open parentheses stays one
above the count of those that are open inside the argument. -/
theorem readOn_advance {mode next : Mode} {depth nextDepth : Nat} {c : Char} (list rest : Text)
    (start offset : Nat) (arguments : List Text)
    (stepped : advance (mode, depth) c = some (next, nextDepth)) :
    readOn list ⟨mode, depth + 1, start, arguments⟩ offset (c :: rest) =
      readOn list ⟨next, nextDepth + 1, start, arguments⟩ (offset + c.utf8Size) rest := by
  cases mode with
  | escaped quote =>
    obtain ⟨rfl, rfl⟩ := Prod.mk.inj (Option.some.inj stepped)
    rfl
  | quoted quote =>
    simp only [advance] at stepped
    simp only [readOn]
    grind
  | plain =>
    simp only [advance] at stepped
    simp only [readOn]
    cases depth <;> grind

/-- At the parenthesis that closes the list the last argument is cut out, and reading
ends. -/
theorem readOn_closing (list rest : Text) (start offset : Nat) (arguments : List Text) :
    readOn list ⟨.plain, 1, start, arguments⟩ offset (')' :: rest) = (do
      let argument ← sliceOf list start offset
      return some (occupied (arguments ++ [argument]), offset + 1)) := by
  simp [readOn, isQuote]

/-- At a comma of the list an argument is cut out, and the next one starts behind the
comma. -/
theorem readOn_comma (list rest : Text) (start offset : Nat) (arguments : List Text) :
    readOn list ⟨.plain, 1, start, arguments⟩ offset (',' :: rest) = (do
      let argument ← sliceOf list start offset
      readOn list ⟨.plain, 1, offset + 1, arguments ++ [argument]⟩ (offset + 1) rest) := by
  have width : (',' : Char).utf8Size = 1 := by decide
  simp [readOn, isQuote, width]

/-- Inside a list a reading takes the arguments apart as a scan does, and no fault comes
up. The text in front of the current argument and the part of the argument that was read
are known by their offsets. -/
theorem readOn_eq_scan (opened current remaining : Text) (mode : Mode) (depth : Nat)
    (arguments : List Text) :
    readOn (opened ++ current ++ remaining) ⟨mode, depth + 1, Text.utf8Length opened, arguments⟩
        (Text.utf8Length (opened ++ current)) remaining =
      .ok ((scan mode depth remaining).map fun scanned =>
        (occupied (arguments ++ (current ++ scanned.first) :: scanned.others),
          Text.utf8Length (Text.upTo (opened ++ current ++ remaining) scanned.rest))) := by
  induction remaining generalizing opened current mode depth arguments with
  | nil => rfl
  | cons c rest inductionHypothesis =>
    cases stepped : advance (mode, depth) c with
    | some next =>
      -- The character is one more of the current argument.
      obtain ⟨nextMode, nextDepth⟩ := next
      have kept := inductionHypothesis opened (current ++ [c]) nextMode nextDepth arguments
      have joined : opened ++ (current ++ [c]) ++ rest = opened ++ current ++ c :: rest := by simp
      rw [joined, ← List.append_assoc, Text.utf8Length_append_singleton] at kept
      rw [readOn_advance _ _ _ _ _ stepped, kept, scan_cons rest stepped, Option.map_map]
      simp [Function.comp_def, Scanned.keep]
    | none =>
      obtain ⟨rfl, rfl, closing | comma⟩ := advance_eq_none stepped
      · subst closing
        have ended : scan .plain 0 (')' :: rest) = some ⟨[], [], rest⟩ := by simp [scan, isQuote]
        have consumed : Text.upTo (opened ++ current ++ ')' :: rest) rest =
            opened ++ current ++ [')'] := by
          rw [List.append_cons]
          exact Text.upTo_append _ _
        rw [readOn_closing, sliceOf_append, ended, Option.map_some, consumed,
          Text.utf8Length_append_singleton, List.append_nil]
        rfl
      · subst comma
        have parted : scan .plain 0 (',' :: rest) = (scan .plain 0 rest).map .split := by
          simp [scan, isQuote]
        -- The next argument starts behind the comma, and nothing of it was read yet.
        have behind := inductionHypothesis (opened ++ current ++ [',']) [] .plain 0
          (arguments ++ [current])
        rw [List.append_nil, ← List.append_cons, Text.utf8Length_append_singleton] at behind
        rw [readOn_comma, sliceOf_append, parted, Option.map_map]
        refine behind.trans ?_
        simp [Function.comp_def, Scanned.split]

/-- Reading in place and scanning leave out the same blank argument. -/
theorem occupied_arguments (scanned : Scanned) :
    occupied scanned.arguments =
      if scanned.others.isEmpty && scanned.first.all Text.isBlank then []
      else scanned.arguments := by
  obtain ⟨first, others, rest⟩ := scanned
  cases others <;> simp [occupied, Scanned.arguments]

/-- A list that is read from its opening parenthesis on is the list at the front of the
text. -/
theorem readOn_list (inner : Text) :
    readOn ('(' :: inner) ⟨.plain, 0, 1, []⟩ 0 ('(' :: inner) =
      .ok ((argumentList? ('(' :: inner)).map fun (arguments, rest) =>
        (arguments, Text.utf8Length (Text.upTo ('(' :: inner) rest))) := by
  have opened : readOn ('(' :: inner) ⟨.plain, 0, 1, []⟩ 0 ('(' :: inner) =
      readOn ('(' :: inner) ⟨.plain, 1, 1, []⟩ 1 inner := by
    have width : ('(' : Char).utf8Size = 1 := by decide
    simp [readOn, isQuote, width]
  have read := readOn_eq_scan ['('] [] inner .plain 0 []
  rw [opened, argumentList?, Option.map_map]
  refine read.trans ?_
  simp only [Function.comp_def, ← occupied_arguments]
  rfl

/-- Reading in place finds what stands at a place, and no fault comes up. -/
theorem readInPlace_eq (before text : Text) :
    readInPlace (before ++ text) (Text.utf8Length before) =
      .ok ⟨(argumentsOf text).1,
        Text.utf8Length before + Text.utf8Length (Text.upTo text (argumentsOf text).2)⟩ := by
  have nothing : Text.upTo text text = [] := Text.upTo_append [] text
  unfold readInPlace argumentsOf
  rw [sliceOf_behind]
  by_cases listed : text.head? = some '('
  · obtain ⟨inner, rfl⟩ := List.head?_eq_some_iff.1 listed
    have read := readOn_list inner
    cases found : argumentList? ('(' :: inner) with
    | none =>
      rw [found] at read
      simp [bind, Except.bind, pure, Except.pure, read, nothing, Text.utf8Length_nil]
    | some pair =>
      rw [found] at read
      simp [bind, Except.bind, pure, Except.pure, read]
  · have unlisted : argumentList? text = none := by
      unfold argumentList?
      split
      · exact absurd rfl listed
      · rfl
    simp [bind, Except.bind, pure, Except.pure, listed, unlisted, nothing, Text.utf8Length_nil]

/-- What is read in place is what is read at that offset of the text. -/
theorem parseArguments?_eq_readInPlace (before text : Text) :
    ∃ parsed, parseArguments? (before ++ text) (Text.utf8Length before) = some parsed ∧
      readInPlace (before ++ text) (Text.utf8Length before) = .ok parsed := by
  refine ⟨_, ?_, readInPlace_eq before text⟩
  rw [parseArguments?, Text.cutAt?_utf8Length, Option.map_some]

/-- The search in place finds the invocation that is found behind the place. Every bound
that is taken is the length of a front of the text. -/
theorem findInPlace_eq (name : Text) (cursor : Cursor) :
    findInPlace name cursor.text cursor.offset =
      .ok (findAt? name cursor.text cursor.offset) := by
  have front : sliceOf cursor.text 0 cursor.offset = .ok cursor.before :=
    sliceOf_front cursor.before cursor.after
  have behind : sliceOf cursor.text cursor.offset (Text.utf8Length cursor.text) =
      .ok cursor.after := sliceOf_behind cursor.before cursor.after
  rw [Applier.findAt?_offset, findInPlace, front, behind, next?, occurrence?]
  cases located : locate? name cursor.before.getLast? cursor.after with
  | none => simp [bind, Except.bind, pure, Except.pure, located]
  | some pair =>
    obtain ⟨between, rest⟩ := pair
    have split : cursor.text = cursor.before ++ between ++ name ++ rest := by
      rw [Cursor.text, locate?_eq_append located]
      simp only [List.append_assoc]
    have place : cursor.offset + Text.utf8Length between + Text.utf8Length name =
        Text.utf8Length (cursor.before ++ between ++ name) := by
      simp only [Text.utf8Length_append, Cursor.offset]
    have read := readInPlace_eq (cursor.before ++ between ++ name) rest
    rw [← split, ← place] at read
    simp only [bind, Except.bind, pure, Except.pure, located, read, Occurrence.invocation,
      Text.utf8Length_append, Option.map_some, Except.ok.injEq, Option.some.injEq,
      Invocation.mk.injEq, true_and, and_true]
    omega

/-! ## What is left to search -/

/-- An occurrence has the name at its front, so it takes up some of the text. -/
theorem occurrence?_source_ne_nil {name text : Text} {previous : Option Char}
    {occurrence : Occurrence} (named : name ≠ [])
    (found : occurrence? name previous text = some occurrence) : occurrence.source ≠ [] := by
  obtain ⟨⟨before, behind⟩, -, rfl⟩ := Option.map_eq_some_iff.1 found
  exact List.append_ne_nil_of_left_ne_nil named _

/-- Behind an occurrence fewer bytes are left. -/
theorem occurrence?_rest_bytes {name text : Text} {previous : Option Char}
    {occurrence : Occurrence} (named : name ≠ [])
    (found : occurrence? name previous text = some occurrence) :
    Text.utf8Length occurrence.rest < Text.utf8Length text := by
  have filled := Text.utf8Length_pos (occurrence?_source_ne_nil named found)
  rw [occurrence?_text found, Text.utf8Length_append, Text.utf8Length_append]
  omega

/-- Texts with commas between them have the bytes of each at least. -/
theorem utf8Length_le_intercalate {text : Text} {texts : List Text} (member : text ∈ texts) :
    Text.utf8Length text ≤ Text.utf8Length ([','].intercalate texts) := by
  induction texts with
  | nil => simp at member
  | cons first others inductionHypothesis =>
    cases others with
    | nil =>
      obtain rfl := List.mem_singleton.1 member
      simp only [List.intercalate_singleton, Nat.le_refl]
    | cons second others =>
      rw [List.intercalate_cons_cons, Text.utf8Length_append, Text.utf8Length_append]
      obtain rfl | later := List.mem_cons.1 member
      · omega
      · have inside := inductionHypothesis later
        omega

/-- An argument has fewer bytes than the text behind the name, where the parentheses are. -/
theorem argumentsOf_bytes {text argument : Text} (member : argument ∈ (argumentsOf text).1) :
    Text.utf8Length argument < Text.utf8Length text := by
  obtain ⟨consumed, split, ⟨none, -⟩ | listed⟩ := argumentsOf_consumed text
  · simp [none] at member
  · have inside := utf8Length_le_intercalate member
    have parenthesis : ('(' : Char).utf8Size = 1 := by decide
    have written : Text.utf8Length text = Text.utf8Length (consumed ++ (argumentsOf text).2) :=
      congrArg Text.utf8Length split
    simp only [listed, Text.utf8Length_append, List.cons_append, Text.utf8Length_cons,
      parenthesis] at written
    omega

/-- An argument of an occurrence has fewer bytes than the text of the occurrence. -/
theorem occurrence?_argument_bytes {name text argument : Text} {previous : Option Char}
    {occurrence : Occurrence} (found : occurrence? name previous text = some occurrence)
    (member : argument ∈ occurrence.arguments) :
    Text.utf8Length argument < Text.utf8Length text := by
  obtain ⟨⟨before, behind⟩, located, rfl⟩ := Option.map_eq_some_iff.1 found
  have shorter := argumentsOf_bytes member
  rw [locate?_eq_append located, Text.utf8Length_append]
  omega

end QueryMacros.Macro
