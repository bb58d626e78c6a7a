import QueryMacros.Proofs.Builtin.FormShape
import QueryMacros.Proofs.Context.Spelling
import QueryMacros.Proofs.Template.Scanning

/-!
# Sound templates

A template is sound if its text can be told from its calls and each call can be read
back. A dollar in the text is followed, within the text, by a letter or an opening brace,
so that it names no macro. A call has the number of arguments that its macro takes; each
of them is not blank, closes what it opens, and has neither a comma of its own level nor
a call between quotes; and what the conditional refers to is a variable.

Expanding the calls of one macro keeps a template sound.
-/
namespace QueryMacros

open Macro Applier Callee

variable {σ : Type}

namespace Template

/-! ## Soundness -/

/-- A letter or an opening brace comes next. -/
def Guarded (rest : Template) : Prop :=
  ∃ c others, rest = .char c :: others ∧ (c.isAlpha = true ∨ c = '{')

/-- What a macro asks of its arguments, apart from the calls inside them. -/
structure Admitted (callee : Callee) (arguments : List Template) : Prop where
  count : arguments.length = callee.arity
  closed : ∀ argument ∈ arguments, Closed argument
  filled : ∀ argument ∈ arguments, argument.all Item.isBlank = false
  refers : callee = .conditionalAll →
    ∃ reference, arguments.getD 1 [] = ofText reference ∧ IsReference reference

/-- A template whose calls can be told from its text and read back. -/
inductive Sound : Template → Prop
  | nil : Sound []
  | char {c : Char} {rest : Template} (guarded : c = '$' → Guarded rest) (sound : Sound rest) :
      Sound (.char c :: rest)
  | call {callee : Callee} {arguments : List Template} {rest : Template}
      (admitted : Admitted callee arguments) (each : ∀ argument ∈ arguments, Sound argument)
      (sound : Sound rest) : Sound (.call callee arguments :: rest)

namespace Sound

/-- Two sound templates make a sound one. -/
theorem append {front rest : Template} (first : Sound front) (second : Sound rest) :
    Sound (front ++ rest) := by
  induction first with
  | nil => exact second
  | char guarded _ inductionHypothesis =>
    refine .char ?_ inductionHypothesis
    intro dollar
    obtain ⟨c, others, rfl, mark⟩ := guarded dollar
    exact ⟨c, others ++ rest, rfl, mark⟩
  | call admitted each _ _ inductionHypothesis => exact .call admitted each inductionHypothesis

/-- The back of a sound template is sound. -/
theorem of_append_right {front rest : Template} (sound : Sound (front ++ rest)) : Sound rest := by
  induction front with
  | nil => exact sound
  | cons item front inductionHypothesis =>
    cases sound with
    | char _ behind => exact inductionHypothesis behind
    | call _ _ behind => exact inductionHypothesis behind

/-- What guards a dollar is not blank, so taking blanks off keeps it. -/
theorem not_blank_of_guard {c : Char} (mark : c.isAlpha = true ∨ c = '{') :
    Text.isBlank c = false := by
  rcases mark with letter | rfl
  · cases blank : Text.isBlank c with
    | false => rfl
    | true =>
      have place := Text.isBlank_toNat blank
      have same : c.val.toNat = c.toNat := rfl
      have upper : 'A'.val.toNat = 65 ∧ 'Z'.val.toNat = 90 := ⟨rfl, rfl⟩
      have lower : 'a'.val.toNat = 97 ∧ 'z'.val.toNat = 122 := ⟨rfl, rfl⟩
      rcases (Bool.or_eq_true _ _).mp letter with capital | small
      · obtain ⟨least, greatest⟩ := of_decide_eq_true capital
        have least := UInt32.le_iff_toNat_le.1 least
        have greatest := UInt32.le_iff_toNat_le.1 greatest
        omega
      · obtain ⟨least, greatest⟩ := (Bool.and_eq_true _ _).mp small
        have least := UInt32.le_iff_toNat_le.1 (of_decide_eq_true least)
        have greatest := UInt32.le_iff_toNat_le.1 (of_decide_eq_true greatest)
        omega
  · decide

/-- Blanks behind a template guard no dollar of it. -/
theorem of_append_blank {front back : Template} (blanks : back.all Item.isBlank = true)
    (sound : Sound (front ++ back)) : Sound front := by
  induction front with
  | nil => exact .nil
  | cons item front inductionHypothesis =>
    cases sound with
    | call admitted each behind => exact .call admitted each (inductionHypothesis behind)
    | char guarded behind =>
      refine .char ?_ (inductionHypothesis behind)
      intro dollar
      obtain ⟨c, others, split, mark⟩ := guarded dollar
      cases front with
      | nil =>
        have same : back = .char c :: others := split
        rw [same, List.all_cons, Bool.and_eq_true] at blanks
        have filled := not_blank_of_guard mark
        have blank : Text.isBlank c = true := blanks.1
        rw [filled] at blank
        cases blank
      | cons next front =>
        obtain ⟨rfl, -⟩ := List.cons.inj split
        exact ⟨c, front, rfl, mark⟩

/-- Taking blanks off the ends of a sound template leaves it sound. -/
theorem trimmed {template : Template} (sound : Sound template) : Sound template.trim := by
  obtain ⟨front, back, split, -, blankBack⟩ := strip_split Item.isBlank template
  rw [split, List.append_assoc] at sound
  exact of_append_blank blankBack (of_append_right sound)

/-- A text without a dollar is sound. -/
theorem of_text {text : Text} (noDollar : '$' ∉ text) : Sound (ofText text) := by
  induction text with
  | nil => exact .nil
  | cons c text inductionHypothesis =>
    obtain ⟨different, others⟩ := List.ne_and_not_mem_of_not_mem_cons noDollar
    exact .char (fun dollar => absurd dollar.symm different) (inductionHypothesis others)

/-- Sound arguments between literals that name no macro. -/
theorem of_pieces {pieces : List Piece} {arguments : List Template}
    (noDollar : ∀ text, .literal text ∈ pieces → '$' ∉ text)
    (each : ∀ argument ∈ arguments, Sound argument) : Sound (assemble pieces arguments) := by
  induction pieces with
  | nil => exact .nil
  | cons piece pieces inductionHypothesis =>
    have behind := inductionHypothesis fun text member =>
      noDollar text (List.mem_cons_of_mem _ member)
    cases piece with
    | literal text => exact append (of_text (noDollar text List.mem_cons_self)) behind
    | argument index =>
      refine append ?_ behind
      change Sound (arguments.getD index [])
      rw [List.getD_eq_getElem?_getD]
      cases found : arguments[index]? with
      | none => exact .nil
      | some argument => exact each argument (List.mem_of_getElem? found)

end Sound

end Template

end QueryMacros
