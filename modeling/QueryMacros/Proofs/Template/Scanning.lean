import QueryMacros.Proofs.Macro.Grammar
import QueryMacros.Proofs.Template.Basic

/-!
# Scanning templates

An argument of a call is scanned as text once it is rendered. What the scan does can be
told from the template already: the calls in it do nothing, since each of them closes
what it opens, and the text does what it does in any argument. The blanks around a
template do nothing either.
-/
namespace QueryMacros

open Macro

namespace Template

/-! ## Scanning -/

/-- What a template does to a scan inside an argument. A call changes nothing, and it
may not stand between quotes. -/
def pass : Standing → Template → Option Standing
  | standing, [] => some standing
  | standing, .char c :: rest => (advance standing c).bind (pass · rest)
  | standing, .call _ _ :: rest => if standing.1 = .plain then pass standing rest else none

/-- The template closes what it opens, outside its calls, and has no comma of the
outermost level there. -/
def Closed (template : Template) : Prop := pass outermost template = some outermost

instance (template : Template) : Decidable (Closed template) :=
  inferInstanceAs (Decidable (_ = _))

/-- A scan over two templates is a scan over the one and then over the other. -/
theorem pass_append (standing : Standing) (front rest : Template) :
    pass standing (front ++ rest) = (pass standing front).bind (pass · rest) := by
  induction front generalizing standing with
  | nil => rfl
  | cons item front inductionHypothesis =>
    cases item with
    | char c =>
      simp only [List.cons_append, pass]
      cases advance standing c with
      | none => rfl
      | some next => exact inductionHypothesis next
    | call callee arguments =>
      simp only [List.cons_append, pass]
      split
      · exact inductionHypothesis standing
      · rfl

/-- A scan over a text is the same for the template without calls. -/
theorem pass_ofText (standing : Standing) (text : Text) :
    pass standing (ofText text) = walk standing text := by
  induction text generalizing standing with
  | nil => rfl
  | cons c text inductionHypothesis =>
    have step : pass standing (ofText (c :: text)) =
        (advance standing c).bind (pass · (ofText text)) := rfl
    rw [step, walk]
    cases advance standing c with
    | none => rfl
    | some next => exact inductionHypothesis next

/-- Parentheses that are open around a template do not disturb it. -/
theorem pass_deeper {standing standing' : Standing} {template : Template} (more : Nat)
    (passed : pass standing template = some standing') :
    pass (standing.1, standing.2 + more) template = some (standing'.1, standing'.2 + more) := by
  induction template generalizing standing with
  | nil =>
    obtain rfl := Option.some.inj passed
    rfl
  | cons item template inductionHypothesis =>
    cases item with
    | char c =>
      obtain ⟨next, stepped, rest⟩ := Option.bind_eq_some_iff.1 passed
      simp only [pass, advance_deeper more stepped, Option.bind_some]
      exact inductionHypothesis rest
    | call callee arguments =>
      simp only [pass] at passed ⊢
      split at passed
      · next plain =>
        rw [if_pos plain]
        exact inductionHypothesis passed
      · cases passed

/-- A closed template leaves a scan as it was, at any depth. -/
theorem Closed.pass_plain {template : Template} (closed : Closed template) (depth : Nat) :
    pass (.plain, depth) template = some (.plain, depth) := by
  have passed := pass_deeper depth closed
  simpa [outermost] using passed

/-! ## Blanks around a template -/

/-- The quote that a scan is in was opened by a character that opens quotes. -/
def Orderly : Standing → Prop
  | (.plain, _) => True
  | (.quoted quote, _) | (.escaped quote, _) => isQuote quote = true

/-- One character keeps a scan orderly. -/
theorem orderly_advance {standing next : Standing} {c : Char} (orderly : Orderly standing)
    (stepped : advance standing c = some next) : Orderly next := by
  obtain ⟨mode, depth⟩ := standing
  cases mode with
  | escaped quote =>
    obtain rfl := Option.some.inj stepped
    exact orderly
  | quoted quote =>
    simp only [advance] at stepped
    split at stepped
    · obtain rfl := Option.some.inj stepped
      exact orderly
    · split at stepped
      · obtain rfl := Option.some.inj stepped
        trivial
      · obtain rfl := Option.some.inj stepped
        exact orderly
  | plain =>
    simp only [advance] at stepped
    by_cases quote : isQuote c = true
    · rw [if_pos quote] at stepped
      obtain rfl := Option.some.inj stepped
      exact quote
    · obtain ⟨mode, depth⟩ := next
      have plain : mode = .plain := by
        cases depth <;> grind
      rw [plain]
      trivial

/-- A whole template keeps a scan orderly. -/
theorem orderly_pass {standing next : Standing} {template : Template}
    (orderly : Orderly standing) (passed : pass standing template = some next) : Orderly next := by
  induction template generalizing standing with
  | nil =>
    obtain rfl := Option.some.inj passed
    exact orderly
  | cons item template inductionHypothesis =>
    cases item with
    | char c =>
      obtain ⟨between, stepped, rest⟩ := Option.bind_eq_some_iff.1 passed
      exact inductionHypothesis (orderly_advance orderly stepped) rest
    | call callee arguments =>
      simp only [pass] at passed
      split at passed
      · exact inductionHypothesis orderly passed
      · cases passed

/-- A blank is none of the characters that a scan looks for. -/
theorem marks_of_isBlank {c : Char} (blank : Text.isBlank c = true) :
    isQuote c = false ∧ c ≠ '(' ∧ c ≠ ')' ∧ c ≠ ',' := by
  have different (other : Char) (filled : Text.isBlank other = false) : c ≠ other := by
    rintro rfl
    rw [blank] at filled
    cases filled
  refine ⟨?_, different '(' (by decide), different ')' (by decide), different ',' (by decide)⟩
  simp [isQuote, different '\'' (by decide), different '"' (by decide),
    different '\x60' (by decide)]

/-- A blank changes nothing in a scan. -/
theorem advance_of_isBlank {c : Char} (blank : Text.isBlank c = true) (depth : Nat) :
    advance (.plain, depth) c = some (.plain, depth) := by
  obtain ⟨quote, opening, closing, comma⟩ := marks_of_isBlank blank
  simp [advance, quote, opening, closing, comma]

/-- A blank template changes nothing in a scan. -/
theorem pass_of_all_blank {template : Template} (blanks : template.all Item.isBlank = true)
    (depth : Nat) : pass (.plain, depth) template = some (.plain, depth) := by
  induction template with
  | nil => rfl
  | cons item template inductionHypothesis =>
    rw [List.all_cons, Bool.and_eq_true] at blanks
    cases item with
    | char c =>
      rw [pass, advance_of_isBlank blanks.1, Option.bind_some, inductionHypothesis blanks.2]
    | call callee arguments => cases blanks.1

/-- Where blanks lead outside of everything, the scan was there already. -/
theorem outermost_of_pass_blank {standing : Standing} {template : Template}
    (orderly : Orderly standing) (blanks : template.all Item.isBlank = true)
    (passed : pass standing template = some outermost) : standing = outermost := by
  induction template generalizing standing with
  | nil => exact Option.some.inj passed
  | cons item template inductionHypothesis =>
    rw [List.all_cons, Bool.and_eq_true] at blanks
    cases item with
    | call callee arguments => cases blanks.1
    | char c =>
      obtain ⟨next, stepped, rest⟩ := Option.bind_eq_some_iff.1 passed
      obtain rfl := inductionHypothesis (orderly_advance orderly stepped) blanks.2 rest
      obtain ⟨mode, depth⟩ := standing
      cases mode with
      | plain =>
        rw [advance_of_isBlank blanks.1] at stepped
        exact Option.some.inj stepped
      | escaped quote => cases stepped
      | quoted quote =>
        -- Only the quote itself leads out of it, and that is not blank.
        have different : c ≠ quote := by
          rintro rfl
          have opens : isQuote c = true := orderly
          rw [(marks_of_isBlank blanks.1).1] at opens
          cases opens
        simp only [advance, if_neg different] at stepped
        split at stepped
        · cases stepped
        · cases stepped

/-- Taking blanks off the ends of a closed template leaves it closed. -/
theorem Closed.trim {template : Template} (closed : Closed template) :
    Closed (trim template) := by
  obtain ⟨front, back, split, blankFront, blankBack⟩ := strip_split Item.isBlank template
  have passed : pass outermost (front ++ strip Item.isBlank template ++ back) = some outermost :=
    split ▸ closed
  have leading : pass outermost front = some outermost := pass_of_all_blank blankFront 0
  rw [pass_append, pass_append, leading, Option.bind_some] at passed
  obtain ⟨between, inside, trailing⟩ := Option.bind_eq_some_iff.1 passed
  have start : Orderly outermost := trivial
  have orderly := orderly_pass start inside
  obtain rfl := outermost_of_pass_blank orderly blankBack trailing
  exact inside

end Template

end QueryMacros
