import QueryMacros.Proofs.Builtin.Form

/-!
# Passes

A registry takes a text through its macros one after the other. A pass of a macro whose
name does not occur in the text changes nothing, and it looks up nothing.
-/
namespace QueryMacros

/-- The first hour of 1970. -/
def TimeRange.firstHour : TimeRange :=
  ⟨⟨0, 0, 0, by decide, by decide, by decide, by decide⟩,
    ⟨0, 3600, 0, by decide, by decide, by decide, by decide⟩⟩

namespace Callee

open Macro

variable {σ : Type}

/-- Several macros, each on the text that the one before it leaves. -/
def passes (callees : List Callee) (context : Context σ) (text : Text) : Expansion σ Text :=
  callees.foldlM (fun text callee => callee.applier.applyAll context text) text

/-- The first macro runs on the text, and the others on what it leaves. -/
theorem passes_cons (callee : Callee) (others : List Callee) (context : Context σ) (text : Text) :
    passes (callee :: others) context text =
      callee.applier.applyAll context text >>= passes others context := by
  rw [passes, List.foldlM_cons]
  rfl

/-- Passes one after the other are the first ones and then the rest. -/
theorem passes_append (front rest : List Callee) (context : Context σ) (text : Text) :
    passes (front ++ rest) context text = passes front context text >>= passes rest context := by
  rw [passes, List.foldlM_append]
  rfl

/-- A macro whose name does not occur leaves the text as it is. -/
theorem applyAll_of_not_occurs {callee : Callee} {context : Context σ} {text : Text}
    (absent : ¬ Occurs callee.name text) :
    callee.applier.applyAll context text = (pure text : Expansion σ Text) := by
  apply Applier.applyFrom_of_none
  have search : next? (callee.applier : Applier σ).name (.start text) =
      occurrence? callee.name none text := by
    rw [applier_name]
    rfl
  rw [search]
  exact (occurrence?_eq_none_iff callee.name_ne_nil).2 absent

/-- A text without the names of the macros is left as it is. -/
theorem passes_of_not_occurs {callees : List Callee} {context : Context σ} {text : Text}
    (absent : ∀ callee ∈ callees, ¬ Occurs callee.name text) :
    passes callees context text = pure text := by
  induction callees with
  | nil => rfl
  | cons callee others inductionHypothesis =>
    obtain ⟨here, there⟩ := List.forall_mem_cons.1 absent
    rw [passes_cons, applyAll_of_not_occurs here, pure_bind, inductionHypothesis there]

/-- The built-in macros of a query are expanded in the order of their list. -/
theorem expandMacros_eq_passes (context : Context σ) (text : Text) :
    expandMacros context text = passes all context text := by
  unfold expandMacros Registry.apply passes
  rw [standard_appliers, List.foldlM_map]

end Callee

end QueryMacros
