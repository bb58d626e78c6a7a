import Mathlib.Data.List.Nodup
import QueryMacros.Proofs.Builtin.AllowList
import QueryMacros.Proofs.Builtin.Passes
import QueryMacros.Proofs.Macro.Raising

/-!
# The macro that an error names

An error names the macro that it belongs to. The built-in macros share their
implementations, and some errors of the ad-hoc filter hold no name at all, but each of
these errors is attributed to the macro whose invocation raised it. No two built-in macros
have the same name, so the name in an error tells where in the registry a run has ended:
all macros in front of that place were expanded, and the named one was found in the text
that they left.
-/
namespace QueryMacros

open Macro Applier Expansion

variable {σ : Type}

/-- An invocation that is refused for its arguments is named in the error. -/
theorem Macro.Invocation.name_of_requireArguments {invocation : Invocation} {count : Nat}
    {fault : Error} (refused : invocation.requireArguments count = .error fault) :
    fault.name = invocation.name := by
  unfold Invocation.requireArguments at refused
  simp only at refused
  split at refused
  · cases refused
  · obtain rfl := Except.error.inj refused
    rfl

/-- The only fault of filters is a comparison with NULL, which belongs to the ad-hoc filter. -/
theorem Builtin.name_of_conditions {context : Context σ} {counted : List (Text × AdHocFilter)}
    {fault : Error} (failed : conditions context counted = .error fault) :
    fault.name = adHocFilterName := by
  rcases accepted_or_first_refused counted with
    accepted | ⟨front, column, filter, back, rfl, accepted, refused⟩
  · obtain ⟨parts, rendered, -⟩ := conditions_of_accepted context accepted
    rw [rendered] at failed
    cases failed
  · rw [conditions_of_refused accepted refused] at failed
    obtain rfl := Except.error.inj failed
    rfl

namespace Callee

/-- The error of a call names the macro that was called. There is a case for each macro;
whatever an expansion throws bears the name that it was called by. -/
theorem expand_failsOnly (callee : Callee) (sql : Text) {invocation : Invocation}
    (context : Context σ) (called : invocation.name = callee.name) :
    FailsOnly (·.name = callee.name) (callee.applier.expand sql invocation context) := by
  -- Every macro checks the number of its arguments first, under the name it was called by.
  have checked (count : Nat) : FailsOnly (·.name = callee.name)
      (ofExcept (invocation.requireArguments count) : Expansion σ (List Text)) :=
    FailsOnly.ofExcept fun fault refused =>
      (Invocation.name_of_requireArguments refused).trans called
  cases callee with
  | conditionalAll =>
    refine (checked 2).bind fun arguments => ?_
    split
    · next condition reference =>
      cases variableName? reference with
      | some name => exact FailsOnly.pure _
      | none => exact FailsOnly.throw called
    · exact FailsOnly.throw called
  | adHocFilter =>
    have resolved (table : Text) (lookup : Metadata.Lookup σ (List Metadata.TableKey)) :
        FailsOnly (·.name = Callee.adHocFilter.name)
          (lookup.adapt (Error.unresolvableTable table) : Expansion σ _) := by
      apply FailsOnly.adapt
      intro fault
      rfl
    refine (checked 0).bind fun _ => ?_
    split
    · exact FailsOnly.pure _
    · cases context.table sql with
      | none => exact FailsOnly.throw rfl
      | some table =>
        cases context.keys with
        | none => exact FailsOnly.throw rfl
        | some lookup =>
          refine (resolved table (lookup table)).bind fun keys => ?_
          refine FailsOnly.bind ?_ fun parts => FailsOnly.pure _
          exact FailsOnly.ofExcept fun fault failed => Builtin.name_of_conditions failed
  | intervalSeconds => exact (checked 0).bind fun _ => FailsOnly.pure _
  | timeInterval | timeIntervalMillis | timeFilter | timeFilterMillis | dateFilter =>
    refine (checked 1).bind fun arguments => ?_
    cases arguments with
    | nil => exact FailsOnly.throw called
    | cons column _ => exact FailsOnly.pure _
  | dateTimeFilter | dateTimeFilterShort =>
    refine (checked 2).bind fun arguments => ?_
    split
    · cases context.timeRange <;> exact FailsOnly.pure _
    · exact FailsOnly.throw called
  | toTime | toTimeMillis | fromTime | fromTimeMillis =>
    refine (checked 0).bind fun _ => ?_
    cases context.timeRange with
    | some range => exact FailsOnly.pure _
    | none => exact FailsOnly.throw called

/-- An error that a call raises names the macro that was called. -/
theorem name_of_raises {callee : Callee} {context : Context σ} {fault : Error}
    (raised : callee.applier.Raises context fault) : fault.name = callee.name := by
  obtain ⟨sql, invocation, state, final, called, failed⟩ := raised
  rw [applier_name] at called
  exact callee.expand_failsOnly sql context called state fault final failed

/-- The names of the standard registry differ from each other. -/
theorem nodup_names : (Registry.standard : Registry σ).names.Nodup := by
  have names : (Registry.standard : Registry σ).names = all.map name := by
    rw [Registry.names, standard_appliers, List.map_map]
    exact List.map_congr_left fun callee _ => callee.applier_name
  have distinct : all.Nodup := by decide
  rw [names]
  exact distinct.map fun _ _ same => name_injective same

/-- A name stands in one place of the standard registry. -/
theorem place_unique {name : Text} {place other : Nat}
    (here : (Registry.standard : Registry σ).names[place]? = some name)
    (there : (Registry.standard : Registry σ).names[other]? = some name) : other = place := by
  have inside := (List.getElem?_eq_some_iff.1 there).1
  exact (List.getElem?_inj inside nodup_names).1 (there.trans here.symm)

end Callee

/-- The run of a registry ends with an error at a place of it: the appliers in front of that
place succeed in turn, and the one that stands there has the name that the error gives and
fails with it on the text that they leave. Its name is found in that text, and the error was
raised over one of its invocations. -/
def Registry.FailsAt (registry : Registry σ) (context : Context σ) (sql : Text) (state : σ)
    (place : Nat) (fault : Error) (final : σ) : Prop :=
  ∃ applier text between, registry.appliers[place]? = some applier ∧ applier.name = fault.name ∧
    (Registry.mk (registry.appliers.take place)).apply context sql state = (.ok text, between) ∧
      applier.applyAll context text between = (.error fault, final) ∧
        (findAt? applier.name text 0).isSome = true ∧ applier.Raises context fault

/-- The expansion of a query ends with an error exactly if the run of the standard
registry fails with it at some place, and only one place has an applier of the name that
the error gives. The run fails in one of its steps, and the names of the registry are
different. -/
theorem expandMacros_eq_error_iff (context : Context σ) (sql : Text) (state : σ) (fault : Error)
    (final : σ) :
    expandMacros context sql state = (.error fault, final) ↔
      ∃ place, Registry.standard.FailsAt context sql state place fault final ∧
        ∀ other, (Registry.standard : Registry σ).names[other]? = some fault.name →
          other = place := by
  constructor
  · intro failed
    -- The place is the number of appliers in front of the one that failed.
    obtain ⟨front, applier, rest, text, between, split, ran, ended⟩ := foldlM_eq_error.1 failed
    have here : (Registry.standard : Registry σ).appliers[front.length]? = some applier := by
      rw [split, List.getElem?_append_right (Nat.le_refl _), Nat.sub_self, List.getElem?_cons_zero]
    have ahead : (Registry.standard : Registry σ).appliers.take front.length = front := by
      rw [split, List.take_left]
    have raised := applier.applyFrom_failsOnly context _ _ _ _ ended
    have named : applier.name = fault.name := by
      have member : applier ∈ (Registry.standard : Registry σ).appliers :=
        List.mem_of_getElem? here
      rw [Callee.standard_appliers] at member
      obtain ⟨callee, -, rfl⟩ := List.mem_map.1 member
      rw [Callee.name_of_raises raised, Callee.applier_name]
    refine ⟨front.length, ⟨applier, text, between, here, named, ?_, ended,
      findAt?_isSome_of_error ended, raised⟩, ?_⟩
    · rw [ahead]
      exact ran
    · intro other same
      have found : (Registry.standard : Registry σ).names[front.length]? = some fault.name := by
        rw [Registry.names, List.getElem?_map, here, Option.map_some, named]
      exact Callee.place_unique found same
  · rintro ⟨place, ⟨applier, text, between, here, -, ran, ended, -, -⟩, -⟩
    obtain ⟨inside, stands⟩ := List.getElem?_eq_some_iff.1 here
    have split : (Registry.standard : Registry σ).appliers =
        Registry.standard.appliers.take place ++
          applier :: Registry.standard.appliers.drop (place + 1) := by
      rw [← stands, List.getElem_cons_drop, List.take_append_drop]
    exact foldlM_eq_error.2 ⟨_, applier, _, text, between, split, ran, ended⟩

/-- The short name of a filter is named in the error, also where the call that is at fault
stands in the arguments of another call. -/
example : (expandMacros (Context.empty : Context Unit)
      "SELECT $__interval_s() FROM t WHERE $__dt(day, $__dt(day)) AND $__fromTime()".toList ()).1 =
    .error (.arity "$__dt" 2) := by
  decide +kernel

end QueryMacros
