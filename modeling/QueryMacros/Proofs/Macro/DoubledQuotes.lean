import QueryMacros.Proofs.Macro.Grammar

/-!
# Doubled quotes

A quote character inside a quote is written twice. A reading that knows this looks one
character ahead: at a quote character that is followed by its like it stays inside, and
at any other it leaves the quote. A scan does not look ahead. It leaves the quote at
every quote character and enters it again at the next one, so between the two it stands
outside where the other reading still stands inside. It reads the same arguments all the
same, and finds the same end, because outside quotes a quote character has no meaning but
to open.
-/
namespace QueryMacros.Macro

/-- Scans from inside an argument list to the parenthesis that closes it, with a doubled
quote taken as one escaped quote character. -/
def scanAhead : Mode → Nat → Text → Option Scanned
  | _, _, [] => none
  | .escaped quote, depth, c :: rest => (scanAhead (.quoted quote) depth rest).map (.keep c)
  | .quoted quote, depth, c :: rest =>
      if c = '\\' then (scanAhead (.escaped quote) depth rest).map (.keep c)
      else if c = quote then
        match rest with
        | [] => none
        | next :: behind =>
            if next = quote then
              (scanAhead (.quoted quote) depth behind).map fun scanned => (scanned.keep next).keep c
            else (scanAhead .plain depth (next :: behind)).map (.keep c)
      else (scanAhead (.quoted quote) depth rest).map (.keep c)
  | .plain, depth, c :: rest =>
      if isQuote c then (scanAhead (.quoted c) depth rest).map (.keep c)
      else if c = '(' then (scanAhead .plain (depth + 1) rest).map (.keep c)
      else if c = ')' then
        match depth with
        | 0 => some ⟨[], [], rest⟩
        | outer + 1 => (scanAhead .plain outer rest).map (.keep c)
      else if c = ',' ∧ depth = 0 then (scanAhead .plain depth rest).map .split
      else (scanAhead .plain depth rest).map (.keep c)

/-- The arguments at a byte offset, and the offset behind them, with a doubled quote taken
as one escaped quote character. There is no answer when the offset is no place of the
text. -/
def parseAhead? (sql : Text) (offset : Nat) : Option ParsedArguments := do
  let (_, rest) ← Text.cutAt? sql offset
  let '(' :: inner := rest | return ⟨[], offset⟩
  let some scanned := scanAhead .plain 0 inner | return ⟨[], offset⟩
  let blank := scanned.others.isEmpty && scanned.first.all Text.isBlank
  return {
    arguments := if blank then [] else scanned.arguments
    stop := offset + Text.utf8Length (Text.upTo rest scanned.rest) }

/-- A quote that is open was opened by a character that opens quotes. -/
def Mode.Opened : Mode → Prop
  | .plain => True
  | .quoted quote | .escaped quote => isQuote quote = true

/-- A doubled quote leaves a scan inside the quote, behind the step outside. -/
theorem scan_doubled {quote : Char} (opens : isQuote quote = true) (depth : Nat) (rest : Text) :
    scan (.quoted quote) depth (quote :: quote :: rest) =
      (scan (.quoted quote) depth rest).map fun scanned => (scanned.keep quote).keep quote := by
  have ordinary : quote ≠ '\\' := by
    rintro rfl
    exact absurd opens (by decide)
  have closed : advance (.quoted quote, depth) quote = some (.plain, depth) := by
    simp [advance, ordinary]
  have reopened : advance (.plain, depth) quote = some (.quoted quote, depth) := by
    simp [advance, opens]
  rw [scan_cons _ closed, scan_cons _ reopened, Option.map_map]
  rfl

/-- Looking ahead makes no difference to a scan. The induction is along the reading that
looks ahead, which takes a doubled quote in one step. -/
theorem scanAhead_eq_scan {mode : Mode} (opened : mode.Opened) (depth : Nat) (text : Text) :
    scanAhead mode depth text = scan mode depth text := by
  fun_induction scanAhead mode depth text with
  | case1 => rw [scan]
  | case2 quote depth c rest inductionHypothesis => rw [scan, inductionHypothesis opened]
  | case3 quote depth rest inductionHypothesis =>
    rw [scan, if_pos rfl, inductionHypothesis opened]
  -- At the closing quote: the text may end, another quote may follow, or something else.
  | case4 depth quote ordinary =>
    rw [scan, if_neg ordinary, if_pos rfl, scan, Option.map_none]
  | case5 depth quote behind ordinary inductionHypothesis =>
    rw [scan_doubled opened, inductionHypothesis opened]
  | case6 depth quote ordinary next behind different inductionHypothesis =>
    rw [scan, if_neg ordinary, if_pos rfl, inductionHypothesis trivial]
  | case7 quote depth c rest ordinary inside inductionHypothesis =>
    rw [scan, if_neg ordinary, if_neg inside, inductionHypothesis opened]
  -- Outside quotes both read one character.
  | case8 depth c rest opens inductionHypothesis =>
    have stepped : advance (.plain, depth) c = some (.quoted c, depth) := by simp [advance, opens]
    rw [scan_cons rest stepped, inductionHypothesis opens]
  | case9 depth rest unquoted inductionHypothesis =>
    have stepped : advance (.plain, depth) '(' = some (.plain, depth + 1) := by
      simp [advance, unquoted]
    rw [scan_cons rest stepped, inductionHypothesis trivial]
  | case10 rest unquoted _ => simp [scan, unquoted]
  | case11 rest outer unquoted _ inductionHypothesis =>
    have stepped : advance (.plain, outer + 1) ')' = some (.plain, outer) := by
      simp [advance, unquoted]
    rw [scan_cons rest stepped, inductionHypothesis trivial]
  | case12 depth c rest unquoted opening closing comma inductionHypothesis =>
    obtain ⟨rfl, rfl⟩ := comma
    simp [scan, unquoted, inductionHypothesis trivial]
  | case13 depth c rest unquoted opening closing inner inductionHypothesis =>
    have stepped : advance (.plain, depth) c = some (.plain, depth) := by
      simp [advance, unquoted, opening, closing, inner]
    rw [scan_cons rest stepped, inductionHypothesis trivial]

/-- Closing and reopening at a doubled quote reads the same arguments, up to the same
offset, as staying inside: for every text and every offset, whether or not the offset is a
place of the text and the text leaves a quote open. -/
theorem parseArguments?_eq_parseAhead? (sql : Text) (offset : Nat) :
    parseArguments? sql offset = parseAhead? sql offset := by
  unfold parseArguments? parseAhead?
  cases cut : Text.cutAt? sql offset with
  | none => rfl
  | some parts =>
    obtain ⟨before, rest⟩ := parts
    have nothing : Text.upTo rest rest = [] := Text.upTo_append [] rest
    simp only [Option.map_some, Option.bind_eq_bind, Option.bind_some, argumentsOf, argumentList?]
    split
    · next inner =>
      have same := scanAhead_eq_scan (show Mode.plain.Opened from trivial) 0 inner
      simp only [same]
      cases scan .plain 0 inner with
      | none => simp [nothing, Text.utf8Length_nil]
      | some scanned => rfl
    · simp [nothing, Text.utf8Length_nil]

/-- A quote character of the same kind, one behind a backslash, and one of another kind. -/
example : parseAhead? "f('a'',\\'\\\\',\"x')\")".toList 1 =
    some ⟨["'a'',\\'\\\\'".toList, "\"x')\"".toList], 19⟩ := by decide +kernel

end QueryMacros.Macro
