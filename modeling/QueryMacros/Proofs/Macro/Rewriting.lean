import QueryMacros.Macro.Applier
import QueryMacros.Proofs.Macro.Occurring

/-!
# What a run of an applier means

A run goes through a text in place: it replaces an invocation in the whole text
and resumes behind the replacement. Its meaning can be said without places. The
text in front of the first invocation stays, the invocation becomes its
replacement, and what stands behind it is a text of its own, with the same
meaning again; the arguments are expanded before, each as a text of its own.

The two agree for every applier whose expansion looks at the name, the arguments
and the context alone. An expansion that looks at the whole text, as that of the
ad-hoc filter does, would see the difference.
-/
namespace QueryMacros.Macro.Applier

variable {σ : Type}

/-- A monadic map only asks its function about the members of the list. -/
theorem mapM_congr_of_mem {m : Type → Type} [Monad m] [LawfulMonad m] {α β : Type} {f g : α → m β}
    {list : List α} (same : ∀ a ∈ list, f a = g a) : list.mapM f = list.mapM g := by
  induction list with
  | nil => simp
  | cons a list inductionHypothesis =>
    rw [List.mapM_cons, List.mapM_cons, same a List.mem_cons_self,
      inductionHypothesis fun b member => same b (List.mem_cons_of_mem a member)]

/-- The expansion does not look at the text around an invocation, nor at the place
of the invocation in it. -/
def IgnoresPlace (applier : Applier σ) (context : Context σ) : Prop :=
  ∀ (sql other : Text) (here there : Invocation), here.name = there.name →
    here.arguments = there.arguments →
      applier.expand sql here context = applier.expand other there context

/-- The meaning of a run: the text in front of the first invocation, what replaces
the invocation, and the meaning of the text behind it. -/
def meaning (applier : Applier σ) (context : Context σ) (text : Text) : Expansion σ Text :=
  match _found : occurrence? applier.name none text with
  | none => return text
  | some occurrence => do
      let arguments ← occurrence.arguments.attach.mapM fun argument =>
        applier.meaning context argument.val
      let replacement ← applier.expand text
        { occurrence.invocation applier.name (.start text) with arguments } context
      let behind ← applier.meaning context occurrence.rest
      return occurrence.before ++ replacement ++ behind
termination_by text.length
decreasing_by
  · exact occurrence?_argument_length ‹_› argument.property
  · exact occurrence?_rest_length applier.named ‹_›

/-- A text without the name means itself. -/
theorem meaning_of_none {applier : Applier σ} {context : Context σ} {text : Text}
    (absent : occurrence? applier.name none text = none) :
    applier.meaning context text = pure text := by
  rw [meaning]
  split
  · rfl
  · next found => simp [absent] at found

/-- The meaning of a text with an invocation. -/
theorem meaning_of_some {applier : Applier σ} {context : Context σ} {text : Text}
    {occurrence : Occurrence} (present : occurrence? applier.name none text = some occurrence) :
    applier.meaning context text = (do
      let arguments ← occurrence.arguments.mapM (applier.meaning context)
      let replacement ← applier.expand text
        { occurrence.invocation applier.name (.start text) with arguments } context
      let behind ← applier.meaning context occurrence.rest
      return occurrence.before ++ replacement ++ behind) := by
  rw [meaning]
  split
  · next absent => simp [present] at absent
  · next found =>
    obtain rfl := Option.some.inj (present.symm.trans found)
    rw [List.mapM_subtype fun _ _ => rfl, List.unattach_attach]

/-- A character where the name does not stand is kept. -/
theorem meaning_cons {applier : Applier σ} {context : Context σ}
    (blind : applier.IgnoresPlace context) {c : Char} {text : Text}
    (absent : nameAt? applier.name none (c :: text) = none) :
    applier.meaning context (c :: text) = (c :: ·) <$> applier.meaning context text := by
  have search := occurrence?_cons applier.named absent
  cases found : occurrence? applier.name none text with
  | none =>
    rw [found] at search
    rw [meaning_of_none search, meaning_of_none found, map_pure]
  | some occurrence =>
    rw [found] at search
    have sameExpansion (arguments : List Text) :
        applier.expand (c :: text) { ({ occurrence with before := c :: occurrence.before } :
            Occurrence).invocation applier.name (.start (c :: text)) with arguments } context =
          applier.expand text
            { occurrence.invocation applier.name (.start text) with arguments } context :=
      blind _ _ _ _ rfl rfl
    rw [meaning_of_some search, meaning_of_some found]
    simp only [sameExpansion, map_bind, map_pure, List.cons_append]

/-- A silent front part is kept. -/
theorem meaning_append_of_silent {applier : Applier σ} {context : Context σ}
    (blind : applier.IgnoresPlace context) {front : Text} (silent : Silent applier.name front)
    (text : Text) :
    applier.meaning context (front ++ text) = (front ++ ·) <$> applier.meaning context text := by
  induction front with
  | nil => simp
  | cons c front inductionHypothesis =>
    have absent : nameAt? applier.name none (c :: (front ++ text)) = none := silent.1 text
    rw [List.cons_append, meaning_cons blind absent, inductionHypothesis silent.2,
      Functor.map_map]
    rfl

/-- A run stops where no invocation is left. -/
theorem applyFrom_of_none {applier : Applier σ} {context : Context σ} {cursor : Cursor}
    (absent : next? applier.name cursor = none) :
    applier.applyFrom context cursor = pure cursor.text := by
  rw [applyFrom]
  split
  · rfl
  · next found => simp [absent] at found

/-- A run expands the arguments of the next invocation, then the invocation, and
goes on behind the replacement. -/
theorem applyFrom_of_some {applier : Applier σ} {context : Context σ} {cursor : Cursor}
    {occurrence : Occurrence} (present : next? applier.name cursor = some occurrence) :
    applier.applyFrom context cursor = (do
      let arguments ← occurrence.arguments.mapM (applier.applyAll context)
      let replacement ← applier.expand cursor.text
        { occurrence.invocation applier.name cursor with arguments } context
      applier.applyFrom context
        ⟨cursor.before ++ occurrence.before ++ replacement, occurrence.rest⟩) := by
  rw [applyFrom]
  split
  · next absent => simp [present] at absent
  · next found =>
    obtain rfl := Option.some.inj (present.symm.trans found)
    rw [List.mapM_subtype (g := applier.applyAll context) fun _ _ => rfl, List.unattach_attach]

/-- A run from a place on keeps what stands before the place, and gives the text
behind it its meaning. The induction is along the search, through the arguments
and the text behind an invocation. -/
theorem applyFrom_eq {applier : Applier σ} {context : Context σ}
    (blind : applier.IgnoresPlace context) (cursor : Cursor) :
    applier.applyFrom context cursor =
      (cursor.before ++ ·) <$> applier.meaning context cursor.after := by
  have sameSearch := next?_eq_occurrence? applier.named
  induction cursor using Cursor.search_induction applier.named with
  | absent cursor search =>
    rw [applyFrom_of_none search, meaning_of_none ((sameSearch cursor).symm.trans search)]
    simp [Cursor.text]
  | present cursor occurrence search inArguments behind =>
    have sameArguments : occurrence.arguments.mapM (applier.applyAll context) =
        occurrence.arguments.mapM (applier.meaning context) := by
      apply mapM_congr_of_mem
      intro argument member
      simpa [applyAll, Cursor.start] using inArguments argument member
    have joined (before : Text) : applier.applyFrom context ⟨before, occurrence.rest⟩ = (do
        let rest ← applier.meaning context occurrence.rest
        return before ++ rest) := by
      rw [behind before, map_eq_pure_bind]
    have sameExpansion (arguments : List Text) :
        applier.expand cursor.text
            { occurrence.invocation applier.name cursor with arguments } context =
          applier.expand cursor.after
            { occurrence.invocation applier.name (.start cursor.after) with arguments } context :=
      blind _ _ _ _ rfl rfl
    rw [applyFrom_of_some search, meaning_of_some ((sameSearch cursor).symm.trans search),
      sameArguments]
    simp only [joined, sameExpansion, map_bind, map_pure, List.append_assoc]

/-- A run over a whole text gives the text its meaning. -/
theorem applyAll_of_ignoresPlace {applier : Applier σ} {context : Context σ}
    (blind : applier.IgnoresPlace context) (text : Text) :
    applier.applyAll context text = applier.meaning context text := by
  have whole := applyFrom_eq blind (.start text)
  simpa [applyAll, Cursor.start] using whole

/-- One turn in the whole text: the next invocation at or behind a byte offset is
replaced where it stands, and the offset moves behind the replacement. -/
def replaceNext (applier : Applier σ) (context : Context σ) (sql : Text) (offset : Nat) :
    Expansion σ (Option (Text × Nat)) :=
  match findAt? applier.name sql offset with
  | none => return none
  | some invocation => do
      let arguments ← invocation.arguments.mapM (applier.applyAll context)
      let replacement ← applier.expand sql { invocation with arguments } context
      return (invocation.replaceIn? sql replacement).map fun changed =>
        (changed, invocation.start + Text.utf8Length replacement)

/-- Takes turns until no invocation is left behind the offset. The count bounds the
turns; there is no text if it runs out. -/
def replaceInPlace (applier : Applier σ) (context : Context σ) :
    Nat → Text → Nat → Expansion σ (Option Text)
  | 0, _, _ => return none
  | turns + 1, sql, offset => do
      match ← applier.replaceNext context sql offset with
      | none => return some sql
      | some (changed, resume) => applier.replaceInPlace context turns changed resume

/-- Searching the whole text from the byte offset of a place is searching behind
the place. -/
theorem findAt?_offset (name : Text) (cursor : Cursor) :
    findAt? name cursor.text cursor.offset =
      (next? name cursor).map (·.invocation name cursor) := by
  have place : Cursor.atOrBehind? cursor.text cursor.offset = some cursor := by
    simp [Cursor.atOrBehind?, Cursor.text, Cursor.offset, Text.cutAtOrBehind?_utf8Length]
  rw [findAt?, searchFrom, place]
  rfl

/-- The offsets of an invocation as places in the text around it. -/
theorem invocation_places {name : Text} {cursor : Cursor} {occurrence : Occurrence}
    (found : next? name cursor = some occurrence) :
    cursor.text = cursor.before ++ occurrence.before ++ occurrence.source ++ occurrence.rest ∧
      (occurrence.invocation name cursor).start =
        Text.utf8Length (cursor.before ++ occurrence.before) ∧
      (occurrence.invocation name cursor).stop =
        Text.utf8Length (cursor.before ++ occurrence.before ++ occurrence.source) := by
  refine ⟨?_, ?_, ?_⟩
  · rw [Cursor.text, occurrence?_text found]
    simp only [List.append_assoc]
  · rw [Text.utf8Length_append]
    rfl
  · rw [Text.utf8Length_append, Text.utf8Length_append]
    rfl

/-- Replacing an invocation in the whole text touches nothing in front of it and
nothing behind it: its two offsets cut the text exactly there. -/
theorem replaceIn?_invocation {name : Text} {cursor : Cursor} {occurrence : Occurrence}
    (found : next? name cursor = some occurrence) (replacement : Text) :
    (occurrence.invocation name cursor).replaceIn? cursor.text replacement =
      some (cursor.before ++ occurrence.before ++ replacement ++ occurrence.rest) := by
  obtain ⟨split, start, stop⟩ := invocation_places found
  have atStart : Text.cutAt? cursor.text (occurrence.invocation name cursor).start =
      some (cursor.before ++ occurrence.before, occurrence.source ++ occurrence.rest) := by
    rw [split, start, List.append_assoc _ occurrence.source]
    exact Text.cutAt?_utf8Length _ _
  have atStop : Text.cutAt? cursor.text (occurrence.invocation name cursor).stop =
      some (cursor.before ++ occurrence.before ++ occurrence.source, occurrence.rest) := by
    rw [split, stop]
    exact Text.cutAt?_utf8Length _ _
  simp only [Invocation.replaceIn?, atStart, atStop, Option.bind_eq_bind, Option.bind_some,
    Option.pure_def]

/-- A turn in the whole text does what a step of a run does at the place. -/
theorem replaceNext_offset (applier : Applier σ) (context : Context σ) (cursor : Cursor) :
    applier.replaceNext context cursor.text cursor.offset =
      Option.map (fun next => (next.text, next.offset)) <$> applier.applyAt context cursor := by
  unfold replaceNext applyAt
  rw [findAt?_offset]
  cases found : next? applier.name cursor with
  | none => simp
  | some occurrence =>
    have resumed (replacement : Text) :
        (occurrence.invocation applier.name cursor).start + Text.utf8Length replacement =
          Text.utf8Length (cursor.before ++ occurrence.before ++ replacement) := by
      simp only [Text.utf8Length_append]
      rfl
    simp only [Option.map_some, replaceIn?_invocation found, resumed, map_bind, map_pure]
    rfl

/-- A run is its next step followed by the run from the place that the step leaves. -/
theorem applyFrom_eq_applyAt (applier : Applier σ) (context : Context σ) (cursor : Cursor) :
    applier.applyFrom context cursor = (do
      match ← applier.applyAt context cursor with
      | none => return cursor.text
      | some next => applier.applyFrom context next) := by
  unfold applyAt
  cases found : next? applier.name cursor with
  | none => simp [applyFrom_of_none found]
  | some occurrence => simp [applyFrom_of_some found]

/-- With more turns than there are characters left, the turns in the whole text
end, and they end with the text that the run gives. -/
theorem replaceInPlace_eq_applyFrom (applier : Applier σ) (context : Context σ) (turns : Nat)
    (cursor : Cursor) (enough : cursor.after.length < turns) :
    applier.replaceInPlace context turns cursor.text cursor.offset =
      some <$> applier.applyFrom context cursor := by
  induction turns generalizing cursor with
  | zero => omega
  | succ turns inductionHypothesis =>
    rw [replaceInPlace, replaceNext_offset, applyFrom_eq_applyAt]
    unfold applyAt
    cases found : next? applier.name cursor with
    | none => simp
    | some occurrence =>
      have shorter := occurrence?_rest_length applier.named found
      have behind (before : Text) := inductionHypothesis ⟨before, occurrence.rest⟩ (by
        simp only; omega)
      simp only [map_bind, bind_assoc, map_pure, pure_bind, Option.map_some, behind]

end QueryMacros.Macro.Applier
