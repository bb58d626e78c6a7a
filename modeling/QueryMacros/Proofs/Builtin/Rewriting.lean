import QueryMacros.Proofs.Builtin.Form

/-!
# Runs of the built-in macros

All built-in macros but the ad-hoc filter ignore the place of an invocation, and so
does every applier that fills a template. A run of such an applier therefore has
the meaning that does not speak of places: what stands outside the invocations is
kept, each replacement stands where its invocation stood, and no replacement is
searched. Turns in the whole text, at byte offsets that move as the text grows and
shrinks, come to the same end.
-/
namespace QueryMacros.Macro.Applier

variable {σ : Type}

/-- An applier that fills a template does not look at places. -/
theorem template_ignoresPlace (name : Text) (named : name ≠ []) (count : Nat)
    (pieces : List Piece) (context : Context σ) :
    (template name named count pieces : Applier σ).IgnoresPlace context := by
  rintro sql other ⟨called, start, stop, arguments⟩ ⟨otherCalled, otherStart, otherStop, others⟩
    sameName sameArguments
  simp only at sameName sameArguments
  subst sameName sameArguments
  rfl

/-- The standard appliers ignore places, apart from the ad-hoc filter. -/
theorem ignoresPlace_of_mem_standard {applier : Applier σ}
    (standard : applier ∈ Registry.standard.appliers) (other : applier.name ≠ adHocFilterName)
    (context : Context σ) : applier.IgnoresPlace context := by
  rw [Callee.standard_appliers] at standard
  obtain ⟨callee, -, rfl⟩ := List.mem_map.1 standard
  refine Callee.ignoresPlace fun same => absurd ?_ other
  rw [same]
  rfl

/-- A run is its meaning, errors included, if the expansion looks at the name, the
arguments and the context alone, as those of the standard appliers do apart from
the ad-hoc filter. The turns in the whole text end within as many turns as the text
has characters, and one more, and they end with the same text or error. -/
theorem applyAll_eq_meaning {applier : Applier σ} {context : Context σ}
    (blind : applier.IgnoresPlace context ∨
      applier ∈ Registry.standard.appliers ∧ applier.name ≠ adHocFilterName) (text : Text) :
    applier.applyAll context text = applier.meaning context text ∧
      ∀ turns, text.length < turns →
        applier.replaceInPlace context turns text 0 = some <$> applier.meaning context text := by
  have ignores : applier.IgnoresPlace context := by
    rcases blind with ignores | ⟨standard, other⟩
    · exact ignores
    · exact ignoresPlace_of_mem_standard standard other context
  have run := applyAll_of_ignoresPlace ignores text
  refine ⟨run, ?_⟩
  intro turns enough
  rw [← run]
  exact replaceInPlace_eq_applyFrom applier context turns (.start text) enough

/-- The applier of a macro that expands to brackets around its own call. -/
def echo : Applier Unit := template "$__echo" (by decide) 0 [.literal "[$__echo()]"]

/-- An expansion that holds its own call, next to a second call. -/
theorem applyAll_echo_eq_meaning :
    echo.IgnoresPlace .empty ∧
      echo.applyAll .empty ("$__echo() + $__echo()" : String) =
        echo.meaning .empty ("$__echo() + $__echo()" : String) ∧
      echo.replaceInPlace .empty 22 ("$__echo() + $__echo()" : String) 0 =
        some <$> echo.meaning .empty ("$__echo() + $__echo()" : String) := by
  have ignores : echo.IgnoresPlace .empty := template_ignoresPlace _ _ _ _ _
  have run := applyAll_eq_meaning (.inl ignores) ("$__echo() + $__echo()" : String)
  exact ⟨ignores, run.1, run.2 22 (by decide)⟩

end QueryMacros.Macro.Applier
