import QueryMacros.Proofs.Builtin.Form
import QueryMacros.Proofs.Text.Trim

/-!
# Templates

A template is a query before any macro is expanded, seen as a tree: characters, and
calls of built-in macros whose arguments are templates again. It is *rendered* to the
query that a user writes, and it has a *value*: its characters, with every call replaced
by the form of its macro on the values of the arguments. Between the two stands the
expansion of all calls of one macro, which gives another template.

All of these read a template in the same way. They are folds, which differ in what they
make of a character and of a call.
-/
namespace QueryMacros

open Macro Applier Callee

variable {σ α : Type}

/-- A part of a template: a character, or a call with templates as arguments. -/
inductive Item where
  | char (c : Char)
  | call (callee : Callee) (arguments : List (List Item))

/-- A query as a tree. -/
abbrev Template := List Item

namespace Template

mutual

/-- What a part of a template amounts to, if a character and a call each amount to a
list. The call is given what its arguments amount to. -/
def foldItem (char : Char → List α) (call : Callee → List (List α) → List α) : Item → List α
  | .char c => char c
  | .call callee arguments => call callee (foldEach char call arguments)
termination_by structural item => item

/-- What a template amounts to: what its parts amount to, in order. -/
def fold (char : Char → List α) (call : Callee → List (List α) → List α) : Template → List α
  | [] => []
  | item :: rest => foldItem char call item ++ fold char call rest
termination_by structural template => template

/-- What each of several templates amounts to. -/
def foldEach (char : Char → List α) (call : Callee → List (List α) → List α) :
    List Template → List (List α)
  | [] => []
  | template :: others => fold char call template :: foldEach char call others
termination_by structural templates => templates

end

section Fold

variable {char : Char → List α} {call : Callee → List (List α) → List α}

/-- The empty template amounts to nothing. -/
theorem fold_nil : fold char call [] = [] := rfl

/-- The first part of a template comes first in what it amounts to. -/
theorem fold_cons (item : Item) (rest : Template) :
    fold char call (item :: rest) = foldItem char call item ++ fold char call rest := rfl

/-- A character amounts to what characters amount to. -/
theorem foldItem_char (c : Char) : foldItem char call (.char c) = char c := rfl

/-- A call amounts to what is made of its arguments, each folded before. -/
theorem foldItem_call (callee : Callee) (arguments : List Template) :
    foldItem char call (.call callee arguments) =
      call callee (arguments.map (fold char call)) := by
  have each : foldEach char call arguments = arguments.map (fold char call) := by
    induction arguments with
    | nil => rfl
    | cons template others inductionHypothesis =>
      rw [foldEach, inductionHypothesis, List.map_cons]
  rw [foldItem, each]

/-- Two templates amount to the one and then the other. -/
theorem fold_append (front rest : Template) :
    fold char call (front ++ rest) = fold char call front ++ fold char call rest := by
  induction front with
  | nil => rfl
  | cons item front inductionHypothesis =>
    rw [List.cons_append, fold_cons, inductionHypothesis, fold_cons, List.append_assoc]

end Fold

/-- A text as a template without calls. -/
def ofText (text : Text) : Template := text.map .char

/-- If a character amounts to one element, a text amounts to its characters one by
one. -/
theorem fold_ofText {char : Char → List α} {call : Callee → List (List α) → List α}
    (write : Char → α) (single : ∀ c, char c = [write c]) (text : Text) :
    fold char call (ofText text) = text.map write := by
  induction text with
  | nil => rfl
  | cons c text inductionHypothesis =>
    have behind : fold char call (text.map .char) = text.map write := inductionHypothesis
    rw [ofText, List.map_cons, fold_cons, behind, foldItem_char, single, List.map_cons,
      List.singleton_append]

/-! ## Blanks -/

end Template

/-- A blank character is blank, and a call is not. -/
def Item.isBlank : Item → Bool
  | .char c => Text.isBlank c
  | .call _ _ => false

namespace Template

/-- A template without the blanks at its ends. -/
def trim (template : Template) : Template := strip Item.isBlank template

section Strip

variable {char : Char → List α} {call : Callee → List (List α) → List α} {blank : α → Bool}

/-- If blanks amount to blanks, a blank template amounts to nothing else. -/
theorem all_fold_of_all (blanks : ∀ c, Text.isBlank c = true → (char c).all blank = true)
    {template : Template} (all : template.all Item.isBlank = true) :
    (fold char call template).all blank = true := by
  induction template with
  | nil => rfl
  | cons item template inductionHypothesis =>
    rw [List.all_cons, Bool.and_eq_true] at all
    rw [fold_cons, List.all_append, inductionHypothesis all.2, Bool.and_true]
    cases item with
    | char c => exact blanks c all.1
    | call callee arguments => cases all.1

/-- A solid template becomes solid if its parts do. -/
theorem solid_fold {template : Template}
    (parts : ∀ item ∈ template, item.isBlank = false → Solid blank (foldItem char call item))
    (solid : Solid Item.isBlank template) : Solid blank (fold char call template) := by
  obtain ⟨⟨first, rest, starts, filledFirst⟩, init, last, ends, filledLast⟩ := solid
  have solidFirst := parts first (by simp [starts]) filledFirst
  have solidLast := parts last (by simp [ends]) filledLast
  constructor
  · rw [starts, fold_cons]
    exact solidFirst.starts.append _
  · rw [ends, fold_append, fold_cons, fold_nil, List.append_nil]
    exact solidLast.ends.append _

/-- If blanks stay blanks and all other parts become solid, a template that is not blank
becomes a list that is not blank. -/
theorem all_fold_of_not_all
    {template : Template}
    (parts : ∀ item ∈ template, item.isBlank = false → Solid blank (foldItem char call item))
    (filled : template.all Item.isBlank = false) : (fold char call template).all blank = false := by
  induction template with
  | nil => cases filled
  | cons item template inductionHypothesis =>
    obtain ⟨here, there⟩ := List.forall_mem_cons.1 parts
    rw [fold_cons, List.all_append]
    cases blankItem : item.isBlank with
    | false => rw [(here blankItem).not_all_blank, Bool.false_and]
    | true =>
      rw [List.all_cons, blankItem, Bool.true_and] at filled
      rw [inductionHypothesis there filled, Bool.and_false]

/-- It does not matter then whether a template is trimmed before or after. -/
theorem strip_fold (blanks : ∀ c, Text.isBlank c = true → (char c).all blank = true)
    {template : Template}
    (parts : ∀ item ∈ template, item.isBlank = false → Solid blank (foldItem char call item)) :
    strip blank (fold char call template) = fold char call (trim template) := by
  cases filled : template.all Item.isBlank with
  | true =>
    rw [trim, strip_of_all filled, strip_of_all (all_fold_of_all blanks filled), fold_nil]
  | false =>
    obtain ⟨front, back, split, blankFront, blankBack⟩ := strip_split Item.isBlank template
    have inside : ∀ item ∈ trim template, item.isBlank = false →
        Solid blank (foldItem char call item) := by
      intro item member
      apply parts item
      rw [split]
      exact List.mem_append_left _ (List.mem_append_right _ member)
    have solid := solid_fold inside (solid_strip filled)
    have written : fold char call template =
        fold char call front ++ fold char call (trim template) ++ fold char call back := by
      rw [← fold_append, ← fold_append]
      exact congrArg _ split
    rw [written]
    exact strip_of_solid (all_fold_of_all blanks blankFront) solid
      (all_fold_of_all blanks blankBack)

end Strip

/-! ## Readings -/

/-- A call as it is written. -/
def renderCall (callee : Callee) (arguments : List Text) : Text :=
  callee.name ++ '(' :: [','].intercalate arguments ++ [')']

/-- A template as it is written. -/
def render (template : Template) : Text := fold (fun c => [c]) renderCall template

/-- The form of a macro on the values of its arguments, without the blanks around
them. -/
def valueCall (context : Context σ) (range : TimeRange) (callee : Callee)
    (arguments : List Text) : Text :=
  fill (callee.form context range (arguments.map Text.trim)) (arguments.map Text.trim)

/-- The value of a template, in a time range: each call becomes the form of its macro on
the values of its arguments. -/
def value (context : Context σ) (range : TimeRange) (template : Template) : Text :=
  fold (fun c => [c]) (valueCall context range) template

/-- The pieces of a form with templates in the places of the arguments. -/
def assemble (pieces : List Piece) (arguments : List Template) : Template :=
  pieces.flatMap fun
    | .literal text => ofText text
    | .argument index => arguments.getD index []

/-- A call of the given macro becomes its form on the arguments; another call stays. -/
def expandCall (context : Context σ) (range : TimeRange) (target callee : Callee)
    (arguments : List Template) : Template :=
  if callee = target then
    assemble (callee.form context range (arguments.map fun argument => Text.trim (render argument)))
      (arguments.map trim)
  else [.call callee arguments]

/-- The template in which all calls of one macro are expanded, and no others. -/
def expandCalls (context : Context σ) (range : TimeRange) (target : Callee)
    (template : Template) : Template :=
  fold (fun c => [.char c]) (expandCall context range target) template

/-- The macros that are called in a template. -/
def callees (template : Template) : List Callee :=
  fold (fun _ => []) (fun callee arguments => callee :: arguments.flatten) template

/-- A literal is put in as text. -/
@[simp] theorem assemble_literal (text : Text) (rest : List Piece) (arguments : List Template) :
    assemble (.literal text :: rest) arguments = ofText text ++ assemble rest arguments := rfl

/-- The argument of an index is put in as a template. -/
@[simp] theorem assemble_argument (index : Nat) (rest : List Piece) (arguments : List Template) :
    assemble (.argument index :: rest) arguments =
      arguments.getD index [] ++ assemble rest arguments := rfl

/-- Folding the arguments of a call keeps their places, the missing ones empty. -/
theorem getD_map_fold {char : Char → List α} {call : Callee → List (List α) → List α}
    (arguments : List Template) (index : Nat) :
    (arguments.map (fold char call)).getD index [] = fold char call (arguments.getD index []) := by
  rw [List.getD_eq_getElem?_getD, List.getElem?_map, List.getD_eq_getElem?_getD]
  cases arguments[index]? with
  | none => rfl
  | some argument => rfl

/-- Templates put into a form are read as texts put into it. -/
theorem fold_assemble {call : Callee → List Text → Text} (pieces : List Piece)
    (arguments : List Template) :
    fold (fun c => [c]) call (assemble pieces arguments) =
      fill pieces (arguments.map (fold (fun c => [c]) call)) := by
  induction pieces with
  | nil => rfl
  | cons piece pieces inductionHypothesis =>
    cases piece with
    | literal text =>
      have same : fold (fun c => [c]) call (ofText text) = text :=
        (fold_ofText id (fun _ => rfl) text).trans (List.map_id text)
      rw [assemble_literal, fill_literal, fold_append, same, inductionHypothesis]
    | argument index =>
      rw [assemble_argument, fill_argument, fold_append, getD_map_fold, inductionHypothesis]

end Template

end QueryMacros
