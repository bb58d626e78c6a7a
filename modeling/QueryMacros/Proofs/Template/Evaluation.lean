import QueryMacros.Proofs.Builtin.Passes
import QueryMacros.Proofs.Template.Preservation

/-!
# What a registry makes of a template

A pass of a macro over a rendered template is the expansion of its calls in the tree, and
nothing else: each call is found, its arguments are read back as they were rendered, and
no other part of the text is touched. So the passes of a registry take a template from
tree to tree, with the same value at every step, until no call is left. That is why the
order of the macros does not matter.
-/
namespace QueryMacros.Template

open Macro Applier Callee

variable {σ : Type}

/-! ## Rendered arguments -/

/-- Joined arguments that are well formed leave a scan inside parentheses as it was. -/
theorem walk_intercalate {arguments : List Text}
    (wellFormed : ∀ argument ∈ arguments, WellFormed argument) (depth : Nat) :
    walk (.plain, depth + 1) ([','].intercalate arguments) = some (.plain, depth + 1) := by
  induction arguments with
  | nil => rfl
  | cons first others inductionHypothesis =>
    obtain ⟨here, there⟩ := List.forall_mem_cons.1 wellFormed
    cases others with
    | nil =>
      rw [List.intercalate_singleton]
      exact here.walk_plain (depth + 1)
    | cons second others =>
      have comma : walk (.plain, depth + 1) [','] = some (.plain, depth + 1) := by
        simp [walk, advance, isQuote]
      rw [List.intercalate_cons_cons, List.append_assoc, walk_append,
        here.walk_plain (depth + 1), Option.bind_some, walk_append, comma, Option.bind_some]
      exact inductionHypothesis there

/-- A rendered call leaves a scan outside quotes as it was. -/
theorem wellFormed_renderCall (callee : Callee) {arguments : List Text}
    (wellFormed : ∀ argument ∈ arguments, WellFormed argument) :
    WellFormed (renderCall callee arguments) := by
  have opening : walk outermost (callee.name ++ ['(']) = some (.plain, 1) := by
    cases callee <;> decide +kernel
  have split : renderCall callee arguments =
      callee.name ++ ['('] ++ ([','].intercalate arguments ++ [')']) := by
    simp [renderCall]
  rw [WellFormed, split, walk_append, opening, Option.bind_some, walk_append,
    walk_intercalate wellFormed, Option.bind_some]
  rfl

/-- Two templates are written one behind the other. -/
theorem render_append (front rest : Template) :
    render (front ++ rest) = render front ++ render rest :=
  fold_append front rest

/-- A call in front is written with its arguments as they are written. -/
theorem render_cons_call (callee : Callee) (arguments : List Template) (rest : Template) :
    render (.call callee arguments :: rest) =
      renderCall callee (arguments.map render) ++ render rest := by
  have item : foldItem (fun c => [c]) renderCall (.call callee arguments) =
      renderCall callee (arguments.map render) := foldItem_call callee arguments
  rw [render, fold_cons, item]
  rfl

/-- What a sound template does to a scan, its text does. The induction is on the soundness
of the template. A written call is well formed, because its arguments are closed. -/
theorem Sound.walk_render {template : Template} (sound : Sound template)
    {standing standing' : Standing} (passed : pass standing template = some standing') :
    walk standing (render template) = some standing' := by
  induction sound generalizing standing standing' with
  | nil => exact passed
  | @char c rest _ _ inductionHypothesis =>
    obtain ⟨next, stepped, behind⟩ := Option.bind_eq_some_iff.1 passed
    have written : render (.char c :: rest) = c :: render rest := rfl
    rw [written, walk, stepped, Option.bind_some]
    exact inductionHypothesis behind
  | @call callee arguments rest admitted _ _ insideHypothesis inductionHypothesis =>
    simp only [pass] at passed
    split at passed
    · next plain =>
      obtain ⟨mode, depth⟩ := standing
      obtain rfl : mode = .plain := plain
      have wellFormed : ∀ argument ∈ arguments.map render, WellFormed argument := by
        intro argument member
        obtain ⟨original, inside, rfl⟩ := List.mem_map.1 member
        exact insideHypothesis original inside (admitted.closed original inside)
      rw [render_cons_call, walk_append, (wellFormed_renderCall callee wellFormed).walk_plain,
        Option.bind_some]
      exact inductionHypothesis passed
    · cases passed

/-- The arguments of a rendered call are read back as they were rendered. -/
theorem argumentsOf_render {callee : Callee} {arguments : List Template}
    (admitted : Admitted callee arguments) (each : ∀ argument ∈ arguments, Sound argument)
    (rest : Text) :
    argumentsOf ('(' :: [','].intercalate (arguments.map render) ++ ')' :: rest) =
      (arguments.map render, rest) := by
  refine argumentsOf_intercalate ?_ ?_ rest
  · intro argument member
    obtain ⟨original, inside, rfl⟩ := List.mem_map.1 member
    exact (each original inside).walk_render (admitted.closed original inside)
  · intro argument member
    obtain ⟨original, inside, rfl⟩ := List.mem_map.1 member
    exact (each original inside).render_filled (admitted.filled original inside)

/-! ## One pass -/

section Pass

variable {context : Context σ} {range : TimeRange} {target : Callee}

/-- In the text of a sound template no name starts. -/
theorem nameAt?_of_guarded {c : Char} {rest : Template} (guarded : c = '$' → Guarded rest)
    (tail : Text) : nameAt? target.name none (c :: (render rest ++ tail)) = none := by
  obtain ⟨letters, same, -⟩ := target.name_eq_cons
  rw [same]
  by_cases dollar : c = '$'
  · obtain ⟨d, others, rfl, mark⟩ := guarded dollar
    have different : d ≠ '_' := by
      rintro rfl
      rcases mark with letter | brace
      · exact absurd letter (by decide)
      · exact absurd brace (by decide)
    rw [dollar]
    exact nameAt?_second_ne different (render others ++ tail)
  · exact nameAt?_first_ne dollar _

/-- A rendered call is found at its place, with its arguments as they were rendered. -/
theorem occurrence?_renderCall {arguments : List Template} (admitted : Admitted target arguments)
    (each : ∀ argument ∈ arguments, Sound argument) (rest : Text) :
    ∃ source, occurrence? target.name none
      (renderCall target (arguments.map render) ++ rest) =
        some ⟨[], arguments.map render, source, rest⟩ := by
  have here : nameAt? target.name none (renderCall target (arguments.map render) ++ rest) =
      some ('(' :: [','].intercalate (arguments.map render) ++ ')' :: rest) := by
    refine nameAt?_eq_some_iff.2 ⟨by simp [renderCall], ?_⟩
    have separates : Text.isWord '(' = false := by decide
    simp [Text.wordEdge, target.name_ends_in_word, separates]
  rw [occurrence?, locate?_of_nameAt? here, Option.map_some]
  simp only [argumentsOf_render admitted each]
  exact ⟨_, rfl⟩

/-- The meaning of a text that begins with the rendering of a template is the rendering
of the expanded template, and the meaning of what follows. -/
def PassedOver (context : Context σ) (range : TimeRange) (target : Callee)
    (template : Template) : Prop :=
  ∀ tail, target.applier.meaning context (render template ++ tail) =
    (render (expandCalls context range target template) ++ ·) <$>
      target.applier.meaning context tail

/-- A template that is passed over means the template with the calls of the macro
expanded. -/
theorem PassedOver.meaning_render {template : Template}
    (passed : PassedOver context range target template) :
    target.applier.meaning context (render template) =
      pure (render (expandCalls context range target template)) := by
  have nothing : target.applier.meaning context [] = (pure [] : Expansion σ Text) := by
    apply meaning_of_none
    rw [applier_name]
    exact (occurrence?_eq_none_iff target.name_ne_nil).2 (not_occurs_nil target.name_ne_nil)
  have whole := passed []
  rwa [List.append_nil, nothing, map_pure, List.append_nil] at whole

/-- Joined arguments are passed over one after the other. -/
theorem meaning_intercalate (unfiltered : context.filters = []) {arguments : List Template}
    (each : ∀ argument ∈ arguments, PassedOver context range target argument) (tail : Text) :
    target.applier.meaning context ([','].intercalate (arguments.map render) ++ tail) =
      ([','].intercalate
        ((arguments.map (expandCalls context range target)).map render) ++ ·) <$>
          target.applier.meaning context tail := by
  have blind : (target.applier : Applier σ).IgnoresPlace context :=
    ignoresPlace fun _ => unfiltered
  have silent : Silent (target.applier : Applier σ).name [','] := by
    rw [applier_name]
    exact target.silent_of_no_dollar (by decide)
  induction arguments with
  | nil => simp
  | cons first others inductionHypothesis =>
    obtain ⟨here, there⟩ := List.forall_mem_cons.1 each
    cases others with
    | nil =>
      simp only [List.map_cons, List.map_nil, List.intercalate_singleton]
      exact here tail
    | cons second others =>
      have behind := inductionHypothesis there
      simp only [List.map_cons] at behind
      simp only [List.map_cons, List.intercalate_cons_cons, List.append_assoc]
      rw [here, meaning_append_of_silent blind silent, behind, Functor.map_map, Functor.map_map]

/-- A call of another macro keeps its place; its arguments are passed over. -/
theorem passedOver_other (unfiltered : context.filters = []) {callee : Callee}
    (different : callee ≠ target) {arguments : List Template} {rest : Template}
    (each : ∀ argument ∈ arguments, PassedOver context range target argument)
    (behind : PassedOver context range target rest) :
    PassedOver context range target (.call callee arguments :: rest) := by
  have blind : (target.applier : Applier σ).IgnoresPlace context :=
    ignoresPlace fun _ => unfiltered
  have opening : Silent (target.applier : Applier σ).name (callee.name ++ ['(']) := by
    rw [applier_name]
    exact silent_opening fun same => different same.symm
  have closing : Silent (target.applier : Applier σ).name [')'] := by
    rw [applier_name]
    exact target.silent_of_no_dollar (by decide)
  intro tail
  have split (texts : List Text) (following : Text) : renderCall callee texts ++ following =
      callee.name ++ ['('] ++ ([','].intercalate texts ++ ([')'] ++ following)) := by
    simp [renderCall]
  have stays : expandCalls context range target (.call callee arguments :: rest) =
      .call callee (arguments.map (expandCalls context range target)) ::
        expandCalls context range target rest := by
    rw [expandCalls_call, expandCall, if_neg different]
    rfl
  -- The name and the marks of the call are silent, so only its arguments and the rest change.
  rw [stays, render_cons_call, render_cons_call, List.append_assoc, split,
    meaning_append_of_silent blind opening, meaning_intercalate unfiltered each,
    meaning_append_of_silent blind closing, behind, Functor.map_map, Functor.map_map,
    Functor.map_map]
  simp only [split, List.append_assoc]

/-- The rendered arguments of an admitted call are what its macro asks for. -/
theorem Admitted.accepts {callee : Callee} {arguments : List Template}
    (admitted : Admitted callee arguments) (sound : ∀ argument ∈ arguments, Sound argument) :
    callee.Accepts (arguments.map render) := by
  refine ⟨(List.length_map _).trans admitted.count, ?_⟩
  intro argument member
  obtain ⟨original, inside, rfl⟩ := List.mem_map.1 member
  exact (QueryMacros.solid_strip
    ((sound original inside).render_filled (admitted.filled original inside))).ne_nil

/-- The rendered reference of a conditional refers to a variable. -/
theorem Admitted.refers_render {callee : Callee} {arguments : List Template}
    (admitted : Admitted callee arguments) (conditional : callee = .conditionalAll) :
    (variableName? (((arguments.map render).map Text.trim).getD 1 [])).isSome = true := by
  obtain ⟨reference, isReference, same⟩ := admitted.reference_read conditional
  have rendered : ((arguments.map render).map Text.trim).getD 1 [] = Text.trim reference := by
    rw [List.map_map]
    exact same render render_ofText
  rw [rendered]
  exact variableName?_isSome isReference

/-- An expanded call is rendered as the form on the rendered arguments. -/
theorem render_expandCall {arguments : List Template}
    (sound : ∀ argument ∈ arguments, Sound argument) :
    render (expandCall context range target target arguments) =
      fill (target.form context range ((arguments.map render).map Text.trim))
        ((arguments.map render).map Text.trim) := by
  have texts : (arguments.map trim).map render = (arguments.map render).map Text.trim := by
    rw [List.map_map, List.map_map]
    exact List.map_congr_left fun argument member => (sound argument member).trim_render.symm
  have sameForm : target.form context range (arguments.map fun a => Text.trim (render a)) =
      target.form context range ((arguments.map render).map Text.trim) := by
    rw [List.map_map]
    rfl
  have filled : render (assemble
      (target.form context range (arguments.map fun a => Text.trim (render a)))
      (arguments.map trim)) = fill
        (target.form context range (arguments.map fun a => Text.trim (render a)))
        ((arguments.map trim).map render) := fold_assemble _ _
  rw [expandCall, if_pos rfl, filled, texts, sameForm]

/-- Arguments that are passed over are expanded to what they are rendered as then. -/
theorem mapM_meaning_render {arguments : List Template}
    (each : ∀ argument ∈ arguments, PassedOver context range target argument) :
    (arguments.map render).mapM (target.applier.meaning context) =
      (pure ((arguments.map (expandCalls context range target)).map render) :
        Expansion σ (List Text)) := by
  induction arguments with
  | nil => rfl
  | cons first others inductionHypothesis =>
    obtain ⟨here, there⟩ := List.forall_mem_cons.1 each
    rw [List.map_cons, List.mapM_cons, here.meaning_render, pure_bind,
      inductionHypothesis there, pure_bind]
    rfl

/-- A call of the macro becomes its form. Its invocation is found where it stands, its
arguments are passed over first, and what they become is still accepted. -/
theorem passedOver_target (ranged : context.timeRange = some range)
    (unfiltered : context.filters = []) {arguments : List Template} {rest : Template}
    (admitted : Admitted target arguments) (sound : ∀ argument ∈ arguments, Sound argument)
    (each : ∀ argument ∈ arguments, PassedOver context range target argument)
    (behind : PassedOver context range target rest) :
    PassedOver context range target (.call target arguments :: rest) := by
  intro tail
  obtain ⟨source, found⟩ := occurrence?_renderCall admitted sound (render rest ++ tail)
  have present : occurrence? (target.applier : Applier σ).name none
      (renderCall target (arguments.map render) ++ (render rest ++ tail)) =
        some ⟨[], arguments.map render, source, render rest ++ tail⟩ := by
    rw [applier_name]
    exact found
  -- The arguments were expanded before the call, and are still what its macro asks for.
  have admittedStepped : Admitted target (arguments.map (expandCalls context range target)) :=
    admitted.expandCalls sound
  have soundStepped : ∀ argument ∈ arguments.map (expandCalls context range target),
      Sound argument := by
    intro argument member
    obtain ⟨original, inside, rfl⟩ := List.mem_map.1 member
    exact (sound original inside).expandCalls
  have expanded (sql : Text) (name : Text) (start stop : Nat) :
      target.applier.expand sql
        ⟨name, start, stop, (arguments.map (expandCalls context range target)).map render⟩ context =
          (pure (render (expandCall context range target target
            (arguments.map (expandCalls context range target)))) : Expansion σ Text) := by
    have accepted := admittedStepped.accepts soundStepped
    have refers := admittedStepped.refers_render
    rw [render_expandCall soundStepped]
    generalize (arguments.map (expandCalls context range target)).map render = texts
      at accepted refers ⊢
    have invoked : target.Accepts (Invocation.mk name start stop texts).arguments := accepted
    exact expand_of_accepts ranged invoked (fun _ => unfiltered) refers sql
  rw [render_cons_call, List.append_assoc, meaning_of_some present, expandCalls_call,
    render_append]
  simp only [mapM_meaning_render each, pure_bind, expanded, behind tail, List.nil_append,
    List.append_assoc, map_eq_pure_bind, bind_assoc]

/-- A pass over a sound template expands the calls of its macro. The induction is on the
soundness of the template: a character cannot begin the name, and a call is one of the
macro or of another. -/
theorem Sound.passedOver (ranged : context.timeRange = some range)
    (unfiltered : context.filters = []) {template : Template} (sound : Sound template) :
    PassedOver context range target template := by
  induction sound with
  | nil =>
    intro tail
    have nothing : Template.expandCalls context range target [] = [] := rfl
    have empty : render [] = [] := rfl
    simp [nothing, empty]
  | @char c rest guarded _ inductionHypothesis =>
    intro tail
    have absent : nameAt? (target.applier : Applier σ).name none (c :: (render rest ++ tail)) =
        none := by
      rw [applier_name]
      exact nameAt?_of_guarded guarded tail
    have kept := meaning_cons (ignoresPlace fun _ => unfiltered) absent
    rw [inductionHypothesis tail, Functor.map_map] at kept
    exact kept
  | @call callee arguments rest admitted each _ insideHypothesis inductionHypothesis =>
    by_cases same : callee = target
    · subst same
      exact passedOver_target ranged unfiltered admitted each insideHypothesis inductionHypothesis
    · exact passedOver_other unfiltered same insideHypothesis inductionHypothesis

/-- Applying one macro to a written template writes the template in which its calls are
expanded. -/
theorem Sound.applyAll_render (ranged : context.timeRange = some range)
    (unfiltered : context.filters = []) {template : Template} (sound : Sound template) :
    target.applier.applyAll context (render template) =
      (pure (render (Template.expandCalls context range target template)) :
        Expansion σ Text) := by
  have blind : (target.applier : Applier σ).IgnoresPlace context :=
    ignoresPlace fun _ => unfiltered
  rw [applyAll_of_ignoresPlace blind]
  exact (sound.passedOver ranged unfiltered).meaning_render

end Pass

/-! ## All passes -/

section Passes

variable {context : Context σ} {range : TimeRange}

/-- Passes of macros that include every one that is called leave the value of the
template. Each pass keeps the value and the soundness, and takes one macro off those that
are still called. -/
theorem Sound.passes_render (ranged : context.timeRange = some range)
    (unfiltered : context.filters = []) {order : List Callee} {template : Template}
    (sound : Sound template) (covers : ∀ callee ∈ callees template, callee ∈ order) :
    passes order context (render template) = pure (value context range template) := by
  induction order generalizing template with
  | nil =>
    have uncalled : callees template = [] :=
      List.eq_nil_iff_forall_not_mem.2 fun callee member => nomatch covers callee member
    have finished : render template = value context range template :=
      render_eq_value sound uncalled
    rw [← finished]
    rfl
  | cons target others inductionHypothesis =>
    have remaining : ∀ callee ∈ callees (Template.expandCalls context range target template),
        callee ∈ others := by
      intro callee member
      obtain ⟨different, called⟩ := mem_callees_expandCalls sound member
      exact List.mem_of_ne_of_mem different (covers callee called)
    rw [passes_cons, sound.applyAll_render ranged unfiltered, pure_bind,
      inductionHypothesis sound.expandCalls remaining, sound.value_expandCalls]

end Passes

/-- Appliers that are all built in are those of a list of macros. -/
theorem exists_callees {appliers : List (Applier σ)}
    (standard : ∀ applier ∈ appliers, applier ∈ (Registry.standard : Registry σ).appliers) :
    ∃ order : List Callee, appliers = order.map Callee.applier := by
  induction appliers with
  | nil => exact ⟨[], rfl⟩
  | cons applier appliers inductionHypothesis =>
    obtain ⟨here, there⟩ := List.forall_mem_cons.1 standard
    rw [standard_appliers] at here
    obtain ⟨callee, -, rfl⟩ := List.mem_map.1 here
    obtain ⟨order, rfl⟩ := inductionHypothesis there
    exact ⟨callee :: order, rfl⟩

/-- A registry of the built-in macros, in whatever order, turns a sound template into its
value, if there is a time range and nothing to filter by. -/
theorem apply_render_eq_value {registry : Registry σ}
    (order : registry.appliers.Perm Registry.standard.appliers) {context : Context σ}
    {range : TimeRange} (ranged : context.timeRange = some range)
    (unfiltered : context.filters = []) {template : Template} (sound : Sound template) :
    registry.apply context (render template) = pure (value context range template) := by
  obtain ⟨callees, same⟩ := exists_callees fun applier member => order.mem_iff.1 member
  have everyone (callee : Callee) : callee ∈ callees := by
    have registered : callee.applier ∈ registry.appliers := by
      rw [order.mem_iff, standard_appliers]
      exact List.mem_map_of_mem callee.mem_all
    rw [same] at registered
    obtain ⟨other, member, sameApplier⟩ := List.mem_map.1 registered
    have sameName := congrArg Applier.name sameApplier
    rw [applier_name, applier_name] at sameName
    exact name_injective sameName ▸ member
  have asPasses : registry.apply context (render template) =
      passes callees context (render template) := by
    unfold Registry.apply passes
    rw [same, List.foldlM_map]
  rw [asPasses]
  exact sound.passes_render ranged unfiltered fun callee _ => everyone callee

/-- A query with a condition that depends on a variable, and with calls in arguments. -/
def dashboard : Template :=
  ofText "SELECT a FROM t WHERE ".toList ++
    .call .conditionalAll
      [ofText " ".toList ++ [.call .timeFilter [ofText "f(ts, ')')".toList]],
        ofText " $region".toList] ::
    (ofText " AND ".toList ++
      [.call .dateTimeFilterShort [ofText "d".toList, [.call .fromTime []]]])

/-- The query of the dashboard is sound. -/
theorem sound_dashboard : Sound dashboard := by
  have column : Sound [.call .timeFilter [ofText "f(ts, ')')".toList]] := by
    refine .call ⟨rfl, by decide, by decide, fun same => nomatch same⟩ ?_ .nil
    intro argument member
    obtain rfl := List.mem_singleton.1 member
    exact .of_text (by decide)
  have reference : IsReference " $region".toList := by
    have trimmed : Text.trim " $region".toList = '$' :: "region".toList := by decide
    exact ⟨"region".toList, ⟨by decide, List.all_eq_true.1 (by decide)⟩, trimmed ▸ .bare⟩
  have selected : Sound (ofText " $region".toList) :=
    .append (.of_text (by decide : '$' ∉ " ".toList))
      (.char (fun _ => ⟨'r', _, rfl, .inl (by decide)⟩) (.of_text (by decide)))
  have start : Sound [.call .fromTime []] :=
    .call ⟨rfl, by decide, by decide, fun same => nomatch same⟩ (by simp) .nil
  refine .append (.of_text (by decide)) (.call ⟨rfl, by decide, by decide, ?_⟩ ?_ ?_)
  · exact fun _ => ⟨_, rfl, reference⟩
  · intro argument member
    rcases List.mem_cons.1 member with rfl | last
    · exact .append (.of_text (by decide)) column
    · obtain rfl := List.mem_singleton.1 last
      exact selected
  · refine .append (.of_text (by decide)) (.call ⟨rfl, by decide, by decide, ?_⟩ ?_ .nil)
    · exact fun same => nomatch same
    · intro argument member
      rcases List.mem_cons.1 member with rfl | last
      · exact .of_text (by decide)
      · obtain rfl := List.mem_singleton.1 last
        exact start

/-- A context in the first hour of 1970, with a region that is selected. -/
def regional : Context Unit :=
  { (Context.empty : Context Unit) with
    timeRange := some .firstHour
    templateVariables := [⟨"region".toList, .single "eu".toList⟩] }

/-- The standard registry backward gives a query its value, too. -/
theorem apply_render_eq_value_reverse :
    (Registry.standard.appliers.reverse.Perm (Registry.standard : Registry Unit).appliers ∧
      regional.timeRange = some .firstHour ∧ regional.filters = [] ∧ Sound dashboard) ∧
    render dashboard =
      "SELECT a FROM t WHERE $__conditionalAll( $__timeFilter(f(ts, ')')),".toList ++
        " $region) AND $__dt(d,$__fromTime())".toList ∧
    (Registry.mk Registry.standard.appliers.reverse).apply regional (render dashboard) =
      pure (value regional .firstHour dashboard) := by
  have order : Registry.standard.appliers.reverse.Perm
      (Registry.standard : Registry Unit).appliers := List.reverse_perm _
  have ranged : regional.timeRange = some .firstHour := rfl
  have unfiltered : regional.filters = [] := rfl
  have written : render dashboard =
      "SELECT a FROM t WHERE $__conditionalAll( $__timeFilter(f(ts, ')')),".toList ++
        " $region) AND $__dt(d,$__fromTime())".toList := by
    decide +kernel
  have evaluated := apply_render_eq_value order ranged unfiltered sound_dashboard
  exact ⟨⟨order, ranged, unfiltered, sound_dashboard⟩, written, evaluated⟩

end QueryMacros.Template
