import QueryMacros.Proofs.Builtin.Form
import QueryMacros.Proofs.Macro.Grammar
import QueryMacros.Proofs.Text.Trim

/-!
# The shape of the forms

The forms of the built-in macros have what it takes to stand wherever a call stood. They
name no macro. They close what they open, around their arguments as well, and have no
comma of the outermost level. And they begin and end with something that is not blank,
if the arguments do.
-/
namespace QueryMacros

open Macro Applier

variable {σ : Type}

/-! ## Numbers -/

namespace Text

/-- A mark of numbers is none of the characters that are none. -/
theorem ne_of_isNumberMark {c : Char} (mark : isNumberMark c = true) (other : Char)
    (none : isNumberMark other = false) : c ≠ other := by
  rintro rfl
  rw [mark] at none
  cases none

/-- No character of a number is blank. -/
theorem isBlank_of_isNumberMark {c : Char} (mark : isNumberMark c = true) : isBlank c = false := by
  simp only [isNumberMark, Bool.or_eq_true, beq_iff_eq] at mark
  rcases mark with (((((((digit | rfl) | rfl) | rfl) | rfl) | rfl) | rfl) | rfl) | rfl
  · exact isBlank_of_isDigit digit
  all_goals decide

/-- A number leaves a scan as it was, outside quotes and between single quotes. No
character of a number opens, closes, separates or escapes anything. -/
theorem walk_of_isNumeric {mode : Mode} (reading : mode = .plain ∨ mode = .quoted '\'')
    (depth : Nat) {text : Text} (numeric : IsNumeric text) :
    walk (mode, depth) text = some (mode, depth) := by
  have stays {c : Char} (mark : isNumberMark c = true) :
      advance (mode, depth) c = some (mode, depth) := by
    have single := ne_of_isNumberMark mark '\'' (by decide)
    have double := ne_of_isNumberMark mark '"' (by decide)
    have back := ne_of_isNumberMark mark '\x60' (by decide)
    have opening := ne_of_isNumberMark mark '(' (by decide)
    have closing := ne_of_isNumberMark mark ')' (by decide)
    have comma := ne_of_isNumberMark mark ',' (by decide)
    have escape := ne_of_isNumberMark mark '\\' (by decide)
    rcases reading with rfl | rfl
    · simp [advance, isQuote, single, double, back, opening, closing, comma]
    · simp [advance, single, escape]
  have marks := numeric.2
  clear numeric
  induction text with
  | nil => rfl
  | cons c text inductionHypothesis =>
    obtain ⟨here, there⟩ := List.forall_mem_cons.1 marks
    rw [walk, stays here, Option.bind_some, inductionHypothesis there]

/-- A number begins with no blank. -/
theorem starts_of_isNumeric {text : Text} (numeric : IsNumeric text) : Starts isBlank text := by
  obtain ⟨filled, marks⟩ := numeric
  obtain ⟨c, rest, rfl⟩ := List.exists_cons_of_ne_nil filled
  exact ⟨c, rest, rfl, isBlank_of_isNumberMark (marks c List.mem_cons_self)⟩

/-- A number ends with no blank. -/
theorem ends_of_isNumeric {text : Text} (numeric : IsNumeric text) : Ends isBlank text := by
  obtain ⟨filled, marks⟩ := numeric
  have last := List.getLast_mem filled
  exact ⟨text.dropLast, text.getLast filled, (List.dropLast_concat_getLast filled).symm,
    isBlank_of_isNumberMark (marks _ last)⟩

/-- A number names no macro. -/
theorem no_dollar_of_isNumeric {text : Text} (numeric : IsNumeric text) : '$' ∉ text := by
  intro member
  have mark := numeric.2 '$' member
  exact absurd mark (by decide)

end Text

/-! ## Bounds -/

/-- A text that can stand in any argument: it names no macro, closes what it opens, and
is not blank at its ends. -/
structure Text.IsPlaceable (text : Text) : Prop where
  noDollar : '$' ∉ text
  wellFormed : WellFormed text
  solid : Solid Text.isBlank text

open Text

/-- A number can stand in any argument. -/
theorem Text.isPlaceable_of_isNumeric {text : Text} (numeric : IsNumeric text) :
    IsPlaceable text where
  noDollar := no_dollar_of_isNumeric numeric
  wellFormed := walk_of_isNumeric (.inl rfl) 0 numeric
  solid := ⟨starts_of_isNumeric numeric, ends_of_isNumeric numeric⟩

/-- A call of a function in SQL, with a text that opens nothing as its argument. -/
theorem Text.isPlaceable_call {function argument : Text} (noDollar : '$' ∉ function)
    (starts : Starts isBlank function)
    (opens : walk outermost function = some (.plain, 1)) (noDollarInside : '$' ∉ argument)
    (inside : walk (.plain, 1) argument = some (.plain, 1)) :
    IsPlaceable (function ++ argument ++ ")".toList) where
  noDollar := by
    have closing : '$' ∉ ")".toList := by decide
    simp only [List.mem_append, noDollar, noDollarInside, closing, or_self, not_false_eq_true]
  wellFormed := by
    rw [WellFormed, walk_append, walk_append, opens, Option.bind_some, inside]
    rfl
  solid := by
    refine ⟨?_, Ends.append ⟨[], ')', rfl, by decide⟩ _⟩
    rw [List.append_assoc]
    exact starts.append _

namespace Sql

/-- A bound in seconds can stand in any argument. -/
theorem isPlaceable_secondBound (instant : Instant) : IsPlaceable (secondBound instant) := by
  have numeric := Numeral.isNumeric_writeInt instant.toSeconds
  exact isPlaceable_call (by decide) ⟨'t', _, rfl, by decide⟩ (by decide)
    (no_dollar_of_isNumeric numeric) (walk_of_isNumeric (.inl rfl) 1 numeric)

/-- A bound in fractional seconds can stand in any argument. -/
theorem isPlaceable_exactSecondBound (instant : Instant) :
    IsPlaceable (exactSecondBound instant) := by
  have numeric := Binary64.isNumeric_writeNumber instant.fractionalSeconds
  exact isPlaceable_call (by decide) ⟨'t', _, rfl, by decide⟩ (by decide)
    (no_dollar_of_isNumeric numeric) (walk_of_isNumeric (.inl rfl) 1 numeric)

/-- A bound in milliseconds can stand in any argument. -/
theorem isPlaceable_millisecondBound (instant : Instant) :
    IsPlaceable (millisecondBound instant) := by
  have numeric := Numeral.isNumeric_writeInt instant.toMillis
  exact isPlaceable_call (by decide) ⟨'f', _, rfl, by decide⟩ (by decide)
    (no_dollar_of_isNumeric numeric) (walk_of_isNumeric (.inl rfl) 1 numeric)

/-- A number is quoted as it stands. -/
theorem quote_of_isNumeric {text : Text} (numeric : IsNumeric text) :
    quote text = '\'' :: text ++ ['\''] := by
  have plain : text.flatMap quoteCharacter = text := by
    have marks := numeric.2
    clear numeric
    induction text with
    | nil => rfl
    | cons c text inductionHypothesis =>
      obtain ⟨here, there⟩ := List.forall_mem_cons.1 marks
      have escape := ne_of_isNumberMark here '\\' (by decide)
      have single := ne_of_isNumberMark here '\'' (by decide)
      rw [List.flatMap_cons, inductionHypothesis there, quoteCharacter, if_neg escape,
        if_neg single, List.singleton_append]
  rw [quote, plain]

/-- A bound by its date can stand in any argument. -/
theorem isPlaceable_dateBound (instant : Instant) : IsPlaceable (dateBound instant) := by
  have numeric := Date.isNumeric_write instant.date
  have written := quote_of_isNumeric numeric
  have noDollar : '$' ∉ quote instant.date.write := by
    rw [written]
    simp [no_dollar_of_isNumeric numeric]
  have inside : walk (.plain, 1) (quote instant.date.write) = some (.plain, 1) := by
    have opened : walk (.plain, 1) ('\'' :: instant.date.write ++ ['\'']) =
        walk (.quoted '\'', 1) (instant.date.write ++ ['\'']) := rfl
    rw [written, opened, walk_append, walk_of_isNumeric (.inr rfl) 1 numeric]
    rfl
  exact isPlaceable_call (by decide) ⟨'t', _, rfl, by decide⟩ (by decide) noDollar inside

end Sql

/-! ## Forms -/

namespace Callee

/-- What pieces do to a scan, whose arguments change nothing and stand outside quotes. -/
def walkPieces : Standing → List Piece → Option Standing
  | standing, [] => some standing
  | standing, .literal text :: rest => (walk standing text).bind (walkPieces · rest)
  | standing, .argument _ :: rest => if standing.1 = .plain then walkPieces standing rest else none

/-- A scan over two runs of pieces is a scan over the one and then over the other. -/
theorem walkPieces_append (standing : Standing) (front rest : List Piece) :
    walkPieces standing (front ++ rest) =
      (walkPieces standing front).bind (walkPieces · rest) := by
  induction front generalizing standing with
  | nil => rfl
  | cons piece front inductionHypothesis =>
    cases piece with
    | literal text =>
      simp only [List.cons_append, walkPieces]
      cases walk standing text with
      | none => rfl
      | some next => exact inductionHypothesis next
    | argument index =>
      simp only [List.cons_append, walkPieces]
      split
      · exact inductionHypothesis standing
      · rfl

/-- A piece that is an argument of the macro, or a literal for which a property holds. -/
def IsArgumentOr (arity : Nat) (property : Text → Prop) : Piece → Prop
  | .literal text => property text
  | .argument index => index < arity

/-- What makes pieces fit in the place of a call. -/
structure Shape (arity : Nat) (pieces : List Piece) : Prop where
  noDollar : ∀ text, .literal text ∈ pieces → '$' ∉ text
  walked : walkPieces outermost pieces = some outermost
  starts : ∃ first rest, pieces = first :: rest ∧ IsArgumentOr arity (Starts isBlank) first
  ends : ∃ front last, pieces = front ++ [last] ∧ IsArgumentOr arity (Ends isBlank) last

namespace Shape

/-- A single argument fits in the place of a call. -/
theorem argument {arity index : Nat} (inside : index < arity) : Shape arity [.argument index] where
  noDollar := by simp
  walked := rfl
  starts := ⟨_, _, rfl, inside⟩
  ends := ⟨[], _, rfl, inside⟩

/-- A literal that can stand in any argument fits in the place of a call. -/
theorem literal {text : Text} (placeable : IsPlaceable text) (arity : Nat) :
    Shape arity [.literal text] where
  noDollar := by
    rintro other member
    obtain rfl := Piece.literal.inj (List.mem_singleton.1 member)
    exact placeable.noDollar
  walked := by
    have walked : walk outermost text = some outermost := placeable.wellFormed
    rw [walkPieces, walked]
    rfl
  starts := ⟨_, _, rfl, placeable.solid.starts⟩
  ends := ⟨[], _, rfl, placeable.solid.ends⟩

/-- Two shapes with a literal between them. -/
theorem join {arity : Nat} {front back : List Piece} (first : Shape arity front) {text : Text}
    (noDollar : '$' ∉ text) (wellFormed : WellFormed text) (second : Shape arity back) :
    Shape arity (front ++ .literal text :: back) where
  noDollar := by
    intro other member
    rcases List.mem_append.1 member with inFront | behind
    · exact first.noDollar other inFront
    · rcases List.mem_cons.1 behind with same | inBack
      · obtain rfl := Piece.literal.inj same
        exact noDollar
      · exact second.noDollar other inBack
  walked := by
    have between : walk outermost text = some outermost := wellFormed
    rw [walkPieces_append, first.walked, Option.bind_some, walkPieces, between, Option.bind_some,
      second.walked]
  starts := by
    obtain ⟨piece, rest, rfl, starts⟩ := first.starts
    exact ⟨piece, rest ++ .literal text :: back, rfl, starts⟩
  ends := by
    obtain ⟨init, piece, rfl, ends⟩ := second.ends
    exact ⟨front ++ .literal text :: init, piece, by simp, ends⟩

/-- An argument between two literals. The first one opens two parentheses, and the second
one closes them, on both sides of a number. -/
theorem around {arity index : Nat} {front opening number closing : Text}
    (noDollarFront : '$' ∉ front) (noDollarOpening : '$' ∉ opening)
    (noDollarClosing : '$' ∉ closing) (numeric : IsNumeric number)
    (opens : walk outermost front = some (.plain, 2))
    (closesFirst : walk (.plain, 2) opening = some (.plain, 1))
    (closesLast : walk (.plain, 1) closing = some outermost)
    (starts : Starts isBlank front) (ends : Ends isBlank closing) :
    Shape arity [.literal front, .argument index, .literal (opening ++ number ++ closing)] where
  noDollar := by
    intro text member
    simp only [List.mem_cons, Piece.literal.injEq, reduceCtorEq, List.not_mem_nil, or_false,
      false_or] at member
    rcases member with rfl | rfl
    · exact noDollarFront
    · simp only [List.mem_append, noDollarOpening, no_dollar_of_isNumeric numeric,
        noDollarClosing, or_self, not_false_eq_true]
  walked := by
    have closes : walk (.plain, 2) (opening ++ number ++ closing) = some outermost := by
      rw [walk_append, walk_append, closesFirst, Option.bind_some,
        walk_of_isNumeric (.inl rfl) 1 numeric, Option.bind_some, closesLast]
    rw [walkPieces, opens, Option.bind_some, walkPieces, if_pos rfl, walkPieces, closes]
    rfl
  starts := ⟨_, _, rfl, starts⟩
  ends := ⟨[.literal front, .argument index], _, rfl, ends.append _⟩

/-- A column between bounds. The first bound joins the column to the second half, and
neither bound opens anything. -/
theorem between {bound : Instant → Text} (placeable : ∀ instant, IsPlaceable (bound instant))
    {arity index : Nat} (inside : index < arity) (range : TimeRange) :
    Shape arity (betweenForm bound index range) := by
  have start := placeable range.start
  have stop := placeable range.stop
  have closing : Shape arity [.argument index, .literal (" <= ".toList ++ bound range.stop)] := by
    have wellFormed : WellFormed (" <= ".toList ++ bound range.stop) :=
      WellFormed.append (by decide) stop.wellFormed
    refine ⟨?_, ?_, ⟨_, _, rfl, inside⟩, ⟨[_], _, rfl, stop.solid.ends.append _⟩⟩
    · intro text member
      obtain rfl : text = " <= ".toList ++ bound range.stop := by simpa using member
      have leading : '$' ∉ " <= ".toList := by decide
      simp only [List.mem_append, leading, stop.noDollar, or_self, not_false_eq_true]
    · have walked : walk outermost (" <= ".toList ++ bound range.stop) = some outermost :=
        wellFormed
      have plain : outermost.1 = .plain := rfl
      rw [walkPieces, if_pos plain, walkPieces, walked]
      rfl
  have noDollar : '$' ∉ " >= ".toList ++ bound range.start ++ " AND ".toList := by
    have leading : '$' ∉ " >= ".toList := by decide
    have trailing : '$' ∉ " AND ".toList := by decide
    simp only [List.mem_append, leading, trailing, start.noDollar, or_self, not_false_eq_true]
  have wellFormed : WellFormed (" >= ".toList ++ bound range.start ++ " AND ".toList) :=
    WellFormed.append (WellFormed.append (by decide) start.wellFormed) (by decide)
  exact (argument inside).join noDollar wellFormed closing

/-- Whatever is put in the places of the pieces is solid, if that is so of the arguments
and literals keep their ends. -/
theorem solid_flatMap {β : Type} {blank : β → Bool} {arity : Nat} {pieces : List Piece}
    (shape : Shape arity pieces) {place : Piece → List β}
    (literalStarts : ∀ text, Starts isBlank text → Starts blank (place (.literal text)))
    (literalEnds : ∀ text, Ends isBlank text → Ends blank (place (.literal text)))
    (arguments : ∀ index, index < arity → Solid blank (place (.argument index))) :
    Solid blank (pieces.flatMap place) := by
  constructor
  · obtain ⟨first, rest, rfl, starts⟩ := shape.starts
    rw [List.flatMap_cons]
    refine Starts.append ?_ _
    cases first with
    | literal text => exact literalStarts text starts
    | argument index => exact (arguments index starts).starts
  · obtain ⟨front, last, rfl, ends⟩ := shape.ends
    rw [List.flatMap_append, List.flatMap_cons, List.flatMap_nil, List.append_nil]
    refine Ends.append ?_ _
    cases last with
    | literal text => exact literalEnds text ends
    | argument index => exact (arguments index ends).ends

end Shape

/-- Where a macro is in a time range, its form fits in the place of its call. There is a
case for each macro, grouped by what its form looks like. -/
theorem shape_form (context : Context σ) (range : TimeRange) (callee : Callee)
    (arguments : List Text) : Shape callee.arity (callee.form context range arguments) := by
  have always : IsPlaceable Sql.always :=
    ⟨by decide, by decide, ⟨'1', _, rfl, by decide⟩, ⟨"1=".toList, '1', rfl, by decide⟩⟩
  have seconds := Binary64.isNumeric_writeNumber context.intervalSeconds
  have millis := Numeral.isNumeric_write context.intervalMilliseconds
  cases callee with
  | conditionalAll =>
    change Shape 2 (if selects context arguments then [.argument 0] else [.literal Sql.always])
    split
    · exact .argument (by decide)
    · exact .literal always _
  | adHocFilter => exact .literal always _
  | intervalSeconds => exact .literal (isPlaceable_of_isNumeric seconds) _
  | timeInterval =>
    exact .around (by decide) (by decide) (by decide) seconds (by decide) (by decide) (by decide)
      ⟨'t', _, rfl, by decide⟩ ⟨" second".toList, ')', rfl, by decide⟩
  | timeIntervalMillis =>
    exact .around (by decide) (by decide) (by decide) millis (by decide) (by decide) (by decide)
      ⟨'t', _, rfl, by decide⟩ ⟨" millisecond".toList, ')', rfl, by decide⟩
  | timeFilter => exact .between Sql.isPlaceable_secondBound (by decide) range
  | timeFilterMillis => exact .between Sql.isPlaceable_millisecondBound (by decide) range
  | dateFilter => exact .between Sql.isPlaceable_dateBound (by decide) range
  | dateTimeFilter | dateTimeFilterShort =>
    have dates : Shape 2 (betweenForm Sql.dateBound 0 range) :=
      .between Sql.isPlaceable_dateBound (by decide) range
    have times : Shape 2 (betweenForm Sql.secondBound 1 range) :=
      .between Sql.isPlaceable_secondBound (by decide) range
    exact dates.join (by decide) (by decide) times
  | toTime | fromTime => exact .literal (Sql.isPlaceable_exactSecondBound _) _
  | toTimeMillis | fromTimeMillis => exact .literal (Sql.isPlaceable_millisecondBound _) _

/-- Only the form of the conditional depends on an argument, and only on the one that is
its reference. -/
theorem form_congr (context : Context σ) (range : TimeRange) {callee : Callee}
    {arguments others : List Text}
    (same : callee = .conditionalAll → arguments.getD 1 [] = others.getD 1 []) :
    callee.form context range arguments = callee.form context range others := by
  cases callee with
  | conditionalAll =>
    have selected : selects context arguments = selects context others := by
      unfold selects
      rw [same rfl]
    unfold form
    rw [selected]
  | _ => rfl

end Callee

end QueryMacros
