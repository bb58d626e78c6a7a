import QueryMacros.Proofs.Template.Sound

/-!
# Expansion keeps templates sound

Expanding all calls of one macro puts a form in the place of each call. A form names no
macro, does nothing to a scan, and has no blank at its ends, so whatever was required of
the template is still so: it is sound, its arguments are closed, and none of them is
blank. The value of the template does not change either, since the value of a call is
the same form, filled with the values of the arguments.
-/
namespace QueryMacros.Template

open Macro Applier Callee

variable {σ α : Type}

/-! ## Ends -/

/-- In a sound template every part but a blank becomes solid, if calls do whenever their
arguments are not blank. -/
theorem Sound.solid_parts {char : Char → List α} {call : Callee → List (List α) → List α}
    {blank : α → Bool}
    (solidChar : ∀ c, Text.isBlank c = false → Solid blank (char c))
    (solidCall : ∀ callee arguments, Admitted callee arguments →
      (∀ argument ∈ arguments, (fold char call argument).all blank = false) →
        Solid blank (call callee (arguments.map (fold char call))))
    {template : Template} (sound : Sound template) :
    ∀ item ∈ template, item.isBlank = false → Solid blank (foldItem char call item) := by
  induction sound with
  | nil => simp
  | @char c rest _ _ inductionHypothesis =>
    intro item member filled
    rcases List.mem_cons.1 member with rfl | behind
    · exact solidChar c filled
    · exact inductionHypothesis item behind filled
  | @call callee arguments rest admitted _ _ insideHypothesis inductionHypothesis =>
    intro item member filled
    rcases List.mem_cons.1 member with rfl | behind
    · rw [foldItem_call]
      apply solidCall callee arguments admitted
      intro argument inside
      exact all_fold_of_not_all (insideHypothesis argument inside)
        (admitted.filled argument inside)
    · exact inductionHypothesis item behind filled

/-- The arguments of an admitted call, each stripped, are solid where the macro has an
argument. -/
theorem Admitted.solid_strip {callee : Callee} {arguments : List Template}
    (admitted : Admitted callee arguments) {blank : α → Bool} {read : Template → List α}
    (filled : ∀ argument ∈ arguments, (read argument).all blank = false) {index : Nat}
    (inside : index < callee.arity) :
    Solid blank ((arguments.map fun argument => strip blank (read argument)).getD index []) := by
  have bound : index < arguments.length := admitted.count.symm ▸ inside
  rw [List.getD_eq_getElem?_getD, List.getElem?_map, List.getElem?_eq_getElem bound]
  exact QueryMacros.solid_strip (filled _ (List.getElem_mem bound))

/-- A filled form is solid. -/
theorem solid_fill {arity : Nat} {pieces : List Piece} (shape : Shape arity pieces)
    {arguments : List Text}
    (solid : ∀ index, index < arity → Solid Text.isBlank (arguments.getD index [])) :
    Solid Text.isBlank (fill pieces arguments) :=
  shape.solid_flatMap (fun _ starts => starts) (fun _ ends => ends) solid

/-- Pieces of a good shape are solid, if the arguments that they have places for are. -/
theorem solid_assemble {arity : Nat} {pieces : List Piece} (shape : Shape arity pieces)
    {arguments : List Template}
    (solid : ∀ index, index < arity → Solid Item.isBlank (arguments.getD index [])) :
    Solid Item.isBlank (assemble pieces arguments) := by
  refine shape.solid_flatMap ?_ ?_ solid
  · rintro text ⟨first, rest, rfl, filled⟩
    exact ⟨.char first, ofText rest, rfl, filled⟩
  · rintro text ⟨front, last, rfl, filled⟩
    exact ⟨ofText front, .char last, List.map_append, filled⟩

section Render

/-- A written call has no blank at its ends. -/
theorem solid_renderCall (callee : Callee) (arguments : List Text) :
    Solid Text.isBlank (renderCall callee arguments) := by
  obtain ⟨letters, same, -⟩ := callee.name_eq_cons
  constructor
  · exact ⟨'$', _, by rw [renderCall, same]; rfl, by decide⟩
  · exact ⟨_, ')', rfl, by decide⟩

/-- Each part that is not blank is written without blanks at its ends. -/
theorem Sound.render_parts {template : Template} (sound : Sound template) :
    ∀ item ∈ template, item.isBlank = false →
      Solid Text.isBlank (foldItem (fun c => [c]) renderCall item) :=
  sound.solid_parts (fun _ filled => .of_not_blank filled)
    fun callee _ _ _ => solid_renderCall callee _

/-- A template is trimmed as it is written. -/
theorem Sound.trim_render {template : Template} (sound : Sound template) :
    Text.trim (render template) = render template.trim :=
  strip_fold (fun c blank => by simp [blank]) sound.render_parts

/-- A template that is not blank is not written as blanks. -/
theorem Sound.render_filled {template : Template} (sound : Sound template)
    (filled : template.all Item.isBlank = false) :
    (render template).all Text.isBlank = false :=
  all_fold_of_not_all sound.render_parts filled

end Render

section Value

variable {context : Context σ} {range : TimeRange}

/-- Each part that is not blank has a value without blanks at its ends. -/
theorem Sound.value_parts {template : Template} (sound : Sound template) :
    ∀ item ∈ template, item.isBlank = false →
      Solid Text.isBlank (foldItem (fun c => [c]) (valueCall context range) item) := by
  refine sound.solid_parts (fun _ filled => .of_not_blank filled) ?_
  intro callee arguments admitted filled
  apply solid_fill (shape_form context range callee _)
  intro index inside
  rw [List.map_map]
  exact admitted.solid_strip filled inside

/-- The value of a template is trimmed as the template is. -/
theorem Sound.trim_value {template : Template} (sound : Sound template) :
    Text.trim (value context range template) = value context range template.trim :=
  strip_fold (fun c blank => by simp [blank]) sound.value_parts

end Value

/-! ## Expansion of calls -/

section Expand

variable {context : Context σ} {range : TimeRange} {target : Callee}

/-- A text has no calls to expand. -/
theorem expandCalls_ofText (text : Text) :
    expandCalls context range target (ofText text) = ofText text :=
  fold_ofText Item.char (fun _ => rfl) text

/-- A character in front stays. -/
theorem expandCalls_char (c : Char) (rest : Template) :
    expandCalls context range target (.char c :: rest) =
      .char c :: expandCalls context range target rest := rfl

/-- A call in front is expanded after its arguments. -/
theorem expandCalls_call (callee : Callee) (arguments : List Template) (rest : Template) :
    expandCalls context range target (.call callee arguments :: rest) =
      expandCall context range target callee
        (arguments.map (expandCalls context range target)) ++
          expandCalls context range target rest := by
  have each : foldItem (fun c => [.char c]) (expandCall context range target)
      (.call callee arguments) = expandCall context range target callee
        (arguments.map (expandCalls context range target)) := foldItem_call callee arguments
  rw [expandCalls, fold_cons, each]
  rfl

/-- Each part that is not blank is expanded to a template without blanks at its ends. -/
theorem Sound.expandCalls_parts {template : Template} (sound : Sound template) :
    ∀ item ∈ template, item.isBlank = false →
      Solid Item.isBlank
        (foldItem (fun c => [.char c]) (expandCall context range target) item) := by
  have chars (c : Char) (filled : Text.isBlank c = false) : Solid Item.isBlank [.char c] :=
    .of_not_blank filled
  apply sound.solid_parts chars
  intro callee arguments admitted filled
  unfold expandCall
  split
  · apply solid_assemble (shape_form context range callee _)
    intro index inside
    rw [List.map_map]
    exact admitted.solid_strip filled inside
  · exact .of_not_blank rfl

/-- A template that is not blank is not expanded to blanks. -/
theorem Sound.expandCalls_filled {template : Template} (sound : Sound template)
    (filled : template.all Item.isBlank = false) :
    (expandCalls context range target template).all Item.isBlank = false :=
  all_fold_of_not_all sound.expandCalls_parts filled

/-- Closed templates in the places of arguments do to a scan what the pieces do. The
induction is on the pieces. A place for an argument is outside quotes, where a closed
template changes nothing. -/
theorem pass_assemble {pieces : List Piece} {arguments : List Template}
    (closed : ∀ argument ∈ arguments, Closed argument) {standing standing' : Standing}
    (walked : walkPieces standing pieces = some standing') :
    pass standing (assemble pieces arguments) = some standing' := by
  induction pieces generalizing standing with
  | nil => exact walked
  | cons piece pieces inductionHypothesis =>
    cases piece with
    | literal text =>
      obtain ⟨next, first, behind⟩ := Option.bind_eq_some_iff.1 walked
      rw [assemble_literal, pass_append, pass_ofText, first, Option.bind_some]
      exact inductionHypothesis behind
    | argument index =>
      simp only [walkPieces] at walked
      split at walked
      · next plain =>
        obtain ⟨mode, depth⟩ := standing
        obtain rfl : mode = .plain := plain
        have unchanged : pass (.plain, depth) (arguments.getD index []) =
            some (.plain, depth) := by
          rw [List.getD_eq_getElem?_getD]
          cases found : arguments[index]? with
          | none => rfl
          | some argument => exact (closed argument (List.mem_of_getElem? found)).pass_plain depth
        rw [assemble_argument, pass_append, unchanged, Option.bind_some]
        exact inductionHypothesis walked
      · cases walked

/-- To a scan an expanded template does what the template does. The induction is on the
soundness of the template; a call stands outside quotes, and so does its form. -/
theorem Sound.pass_expandCalls {template : Template} (sound : Sound template)
    {standing standing' : Standing} (passed : pass standing template = some standing') :
    pass standing (expandCalls context range target template) = some standing' := by
  induction sound generalizing standing standing' with
  | nil => exact passed
  | char _ _ inductionHypothesis =>
    obtain ⟨next, stepped, rest⟩ := Option.bind_eq_some_iff.1 passed
    rw [expandCalls_char, pass, stepped, Option.bind_some]
    exact inductionHypothesis rest
  | @call callee arguments rest admitted _ _ insideHypothesis inductionHypothesis =>
    simp only [pass] at passed
    split at passed
    · next plain =>
      obtain ⟨mode, depth⟩ := standing
      obtain rfl : mode = .plain := plain
      have behind := inductionHypothesis passed
      rw [expandCalls_call, pass_append]
      unfold expandCall
      split
      · have closed : ∀ argument ∈
            (arguments.map (expandCalls context range target)).map Template.trim,
            Closed argument := by
          intro argument member
          obtain ⟨expanded, inExpanded, rfl⟩ := List.mem_map.1 member
          obtain ⟨original, inOriginal, rfl⟩ := List.mem_map.1 inExpanded
          exact Closed.trim (insideHypothesis original inOriginal
            (admitted.closed original inOriginal))
        -- A form of closed arguments is closed, and so does to the scan what the call did: nothing.
        have whole (texts : List Text) : Closed (assemble (callee.form context range texts)
            ((arguments.map (expandCalls context range target)).map Template.trim)) :=
          pass_assemble closed (shape_form context range callee texts).walked
        rw [(whole _).pass_plain, Option.bind_some, behind]
      · rw [pass, if_pos rfl, pass, Option.bind_some, behind]
    · cases passed

/-- The arguments of another call are admitted as they were. -/
theorem Admitted.expandCalls {callee : Callee} {arguments : List Template}
    (admitted : Admitted callee arguments) (each : ∀ argument ∈ arguments, Sound argument) :
    Admitted callee (arguments.map (expandCalls context range target)) where
  count := by
    rw [List.length_map]
    exact admitted.count
  closed := by
    intro argument member
    obtain ⟨original, inside, rfl⟩ := List.mem_map.1 member
    exact (each original inside).pass_expandCalls (admitted.closed original inside)
  filled := by
    intro argument member
    obtain ⟨original, inside, rfl⟩ := List.mem_map.1 member
    exact (each original inside).expandCalls_filled (admitted.filled original inside)
  refers := by
    intro conditional
    obtain ⟨reference, same, isReference⟩ := admitted.refers conditional
    refine ⟨reference, ?_, isReference⟩
    have expanded : (arguments.map (Template.expandCalls context range target)).getD 1 [] =
        Template.expandCalls context range target (arguments.getD 1 []) :=
      getD_map_fold arguments 1
    rw [expanded, same, expandCalls_ofText]

/-- Expanding the calls of one macro keeps a template sound. A form is made of pieces
without dollars and of arguments that were sound before; any other call keeps its
place. -/
theorem Sound.expandCalls {template : Template} (sound : Sound template) :
    Sound (expandCalls context range target template) := by
  induction sound with
  | nil => exact .nil
  | char guarded _ inductionHypothesis =>
    refine .char ?_ inductionHypothesis
    intro dollar
    obtain ⟨c, others, rfl, mark⟩ := guarded dollar
    exact ⟨c, Template.expandCalls context range target others, rfl, mark⟩
  | @call callee arguments rest admitted each _ insideHypothesis inductionHypothesis =>
    rw [expandCalls_call]
    refine append ?_ inductionHypothesis
    unfold expandCall
    split
    · apply Sound.of_pieces (shape_form context range callee _).noDollar
      intro argument member
      obtain ⟨expanded, inExpanded, rfl⟩ := List.mem_map.1 member
      obtain ⟨original, inside, rfl⟩ := List.mem_map.1 inExpanded
      exact (insideHypothesis original inside).trimmed
    · refine .call (admitted.expandCalls each) ?_ .nil
      intro argument member
      obtain ⟨original, inside, rfl⟩ := List.mem_map.1 member
      exact insideHypothesis original inside

/-! ## Values -/

/-- However the arguments of a conditional are read, its reference is read as the same
text. -/
theorem Admitted.reference_read {callee : Callee} {arguments : List Template}
    (admitted : Admitted callee arguments) (conditional : callee = .conditionalAll) :
    ∃ reference, IsReference reference ∧
      ∀ read : Template → Text, (∀ text, read (ofText text) = text) →
        (arguments.map fun argument => Text.trim (read argument)).getD 1 [] =
          Text.trim reference := by
  obtain ⟨reference, same, isReference⟩ := admitted.refers conditional
  have second : 1 < arguments.length := by
    rw [admitted.count, conditional]
    decide
  have known : arguments[1] = ofText reference := by
    rw [← same, List.getD_eq_getElem?_getD, List.getElem?_eq_getElem second]
    rfl
  refine ⟨reference, isReference, ?_⟩
  intro read reads
  rw [List.getD_eq_getElem?_getD, List.getElem?_map, List.getElem?_eq_getElem second, known,
    Option.map_some, Option.getD_some, reads]

/-- Whatever the order of calls, a reference selects the same form. -/
theorem Admitted.form_eq {callee : Callee} {arguments : List Template}
    (admitted : Admitted callee arguments) {read other : Template → Text}
    (reads : ∀ text, read (ofText text) = text) (readsOther : ∀ text, other (ofText text) = text) :
    callee.form context range (arguments.map fun argument => Text.trim (read argument)) =
      callee.form context range (arguments.map fun argument => Text.trim (other argument)) := by
  apply form_congr context range
  intro conditional
  obtain ⟨reference, -, same⟩ := admitted.reference_read conditional
  rw [same read reads, same other readsOther]

/-- The value of a text is the text. -/
theorem value_ofText (text : Text) : value context range (ofText text) = text :=
  (fold_ofText id (fun _ => rfl) text).trans (List.map_id text)

/-- A text is written as it is. -/
theorem render_ofText (text : Text) : render (ofText text) = text :=
  (fold_ofText id (fun _ => rfl) text).trans (List.map_id text)

/-- The value of two templates is the one and then the other. -/
theorem value_append (front rest : Template) :
    value context range (front ++ rest) = value context range front ++ value context range rest :=
  fold_append front rest

/-- The value of a call is the form of its macro on the values of its arguments. -/
theorem value_call (callee : Callee) (arguments : List Template) :
    value context range [.call callee arguments] =
      valueCall context range callee (arguments.map (value context range)) := by
  have item : foldItem (fun c => [c]) (valueCall context range) (.call callee arguments) =
      valueCall context range callee (arguments.map (value context range)) :=
    foldItem_call callee arguments
  exact (List.append_nil _).trans item

/-- A call has the same value whether it is expanded first or not. What a form selects
depends on the reference alone, which has no calls in it. -/
theorem Admitted.value_expandCall {callee : Callee} {arguments : List Template}
    (admitted : Admitted callee arguments) (each : ∀ argument ∈ arguments, Sound argument) :
    value context range (expandCall context range target callee arguments) =
      valueCall context range callee (arguments.map (value context range)) := by
  rw [expandCall]
  split
  · have texts : (arguments.map trim).map (value context range) =
        (arguments.map (value context range)).map Text.trim := by
      rw [List.map_map, List.map_map]
      exact List.map_congr_left fun argument member => (each argument member).trim_value.symm
    have sameForm : callee.form context range (arguments.map fun a => Text.trim (render a)) =
        callee.form context range ((arguments.map (value context range)).map Text.trim) := by
      rw [List.map_map]
      exact admitted.form_eq render_ofText value_ofText
    have filled : value context range (assemble
        (callee.form context range (arguments.map fun a => Text.trim (render a)))
        (arguments.map trim)) = fill
          (callee.form context range (arguments.map fun a => Text.trim (render a)))
          ((arguments.map trim).map (value context range)) := fold_assemble _ _
    rw [filled, texts, sameForm]
    rfl
  · exact value_call callee arguments

/-- Expanding calls does not change the value. -/
theorem Sound.value_expandCalls {template : Template} (sound : Sound template) :
    value context range (Template.expandCalls context range target template) =
      value context range template := by
  induction sound with
  | nil => rfl
  | char _ _ inductionHypothesis =>
    rw [expandCalls_char]
    exact congrArg (List.cons _) inductionHypothesis
  | @call callee arguments rest admitted each _ insideHypothesis inductionHypothesis =>
    have expandedEach : ∀ argument ∈ arguments.map (Template.expandCalls context range target),
        Sound argument := by
      intro argument member
      obtain ⟨original, inside, rfl⟩ := List.mem_map.1 member
      exact (each original inside).expandCalls
    have sameValues : (arguments.map (Template.expandCalls context range target)).map
        (value context range) = arguments.map (value context range) := by
      rw [List.map_map]
      exact List.map_congr_left fun argument member => insideHypothesis argument member
    rw [expandCalls_call, value_append, (admitted.expandCalls each).value_expandCall expandedEach,
      sameValues, inductionHypothesis, ← value_call, ← value_append]
    rfl

/-! ## Callees -/

/-- Two templates call the macros of the one and then of the other. -/
theorem callees_append (front rest : Template) :
    callees (front ++ rest) = callees front ++ callees rest :=
  fold_append front rest

/-- A call in front adds its own macro, and those that its arguments call. -/
theorem callees_call (callee : Callee) (arguments : List Template) (rest : Template) :
    callees (.call callee arguments :: rest) =
      callee :: (arguments.map callees).flatten ++ callees rest := by
  have item : foldItem (fun _ => []) (fun callee arguments => callee :: arguments.flatten)
      (.call callee arguments) = callee :: (arguments.map callees).flatten :=
    foldItem_call callee arguments
  rw [callees, fold_cons, item]
  rfl

/-- A text calls no macro. -/
theorem callees_ofText (text : Text) : callees (ofText text) = [] := by
  induction text with
  | nil => rfl
  | cons c text inductionHypothesis => exact inductionHypothesis

/-- Trimming leaves every call. -/
theorem callees_trim_subset (template : Template) : callees template.trim ⊆ callees template := by
  obtain ⟨front, back, split, -, -⟩ := strip_split Item.isBlank template
  intro callee member
  rw [split, callees_append, callees_append]
  exact List.mem_append_left _ (List.mem_append_right _ member)

/-- A form calls only what its arguments call. -/
theorem mem_callees_assemble {pieces : List Piece} {arguments : List Template} {callee : Callee}
    (member : callee ∈ callees (assemble pieces arguments)) :
    ∃ argument ∈ arguments, callee ∈ callees argument := by
  induction pieces with
  | nil => cases member
  | cons piece pieces inductionHypothesis =>
    cases piece with
    | literal text =>
      rw [assemble_literal, callees_append, callees_ofText] at member
      exact inductionHypothesis member
    | argument index =>
      rw [assemble_argument, callees_append] at member
      rcases List.mem_append.1 member with here | behind
      · rw [List.getD_eq_getElem?_getD] at here
        cases found : arguments[index]? with
        | none =>
          rw [found] at here
          cases here
        | some argument =>
          rw [found] at here
          exact ⟨argument, List.mem_of_getElem? found, here⟩
      · exact inductionHypothesis behind

/-- When the calls of a macro are expanded it is called no more, and no other macro is
called that was not called before. The induction is on the soundness of the template,
through the arguments of each call. -/
theorem mem_callees_expandCalls {template : Template} (sound : Sound template) {callee : Callee}
    (member : callee ∈ callees (expandCalls context range target template)) :
    callee ≠ target ∧ callee ∈ callees template := by
  induction sound with
  | nil => cases member
  | char _ _ inductionHypothesis => exact inductionHypothesis member
  | @call called arguments rest _ _ _ insideHypothesis inductionHypothesis =>
    rw [callees_call]
    -- Whether the call is kept or becomes its form, it calls no more than its arguments do.
    have inArguments {argument : Template} (inside : argument ∈ arguments)
        (calledInside : callee ∈ callees (expandCalls context range target argument)) :
        callee ≠ target ∧
          callee ∈ called :: (arguments.map callees).flatten ++ callees rest := by
      obtain ⟨different, calledBefore⟩ := insideHypothesis argument inside calledInside
      refine ⟨different, List.mem_append_left _ (List.mem_cons_of_mem _ ?_)⟩
      exact List.mem_flatten.2 ⟨_, List.mem_map_of_mem inside, calledBefore⟩
    rw [expandCalls_call, callees_append] at member
    rcases List.mem_append.1 member with here | behind
    · unfold expandCall at here
      split at here
      · obtain ⟨argument, inExpanded, calledInside⟩ := mem_callees_assemble here
        obtain ⟨expanded, inStepped, rfl⟩ := List.mem_map.1 inExpanded
        obtain ⟨original, inside, rfl⟩ := List.mem_map.1 inStepped
        exact inArguments inside (callees_trim_subset _ calledInside)
      · next different =>
        rw [callees_call, List.map_map] at here
        rcases List.mem_append.1 here with inCall | nothing
        · rcases List.mem_cons.1 inCall with rfl | inside
          · exact ⟨different, List.mem_append_left _ List.mem_cons_self⟩
          · obtain ⟨list, inList, calledInside⟩ := List.mem_flatten.1 inside
            obtain ⟨original, inOriginal, rfl⟩ := List.mem_map.1 inList
            exact inArguments inOriginal calledInside
        · cases nothing
    · obtain ⟨different, calledBefore⟩ := inductionHypothesis behind
      exact ⟨different, List.mem_append_right _ calledBefore⟩

/-- A template without calls is the text that it is written as. -/
theorem render_eq_value {template : Template} (sound : Sound template)
    (uncalled : callees template = []) : render template = value context range template := by
  induction sound with
  | nil => rfl
  | char _ _ inductionHypothesis => exact congrArg (List.cons _) (inductionHypothesis uncalled)
  | call _ _ _ _ _ =>
    rw [callees_call] at uncalled
    cases uncalled

end Expand

end QueryMacros.Template
