/-
  NetDelegate/Proofs/Engine/Run.lean
  ==================================
  **Runs, operation by operation.**  `steps` lists the operations of a run, each with the state in
  which it finds what is left behind by those before it, so that what happens in between can be
  told by a part of that list.
-/
import NetDelegate.Proofs.Engine.Teardown

namespace NetDelegate.Engine

/-- The operations of a run, each with the state in which it is done. -/
def steps : State → List Operation → List (State × Operation)
  | _, [] => []
  | s, op :: ops => (s, op) :: steps (perform s op) ops

/-- What follows an operation in a run is a run from the state that it leaves behind. -/
theorem exists_steps_of_eq_append {s t : State} {ops : List Operation} {op : Operation}
    {before after : List (State × Operation)} (h : steps s ops = before ++ (t, op) :: after) :
    ∃ later, after = steps (perform t op) later := by
  induction before generalizing s ops with
  | nil =>
    cases ops with
    | nil => cases h
    | cons first ops =>
      rw [steps, List.nil_append] at h
      obtain ⟨hfirst, hrest⟩ := List.cons.inj h
      cases hfirst
      exact ⟨ops, hrest.symm⟩
  | cons x before ih =>
    cases ops with
    | nil => cases h
    | cons first ops =>
      rw [steps, List.cons_append] at h
      exact ih (List.cons.inj h).2

/-- What each operation of a run keeps holds wherever the run has got to. -/
theorem holds_of_steps {P : State → Prop} {s t : State} {ops : List Operation} {op : Operation}
    {before after : List (State × Operation)} (h : steps s ops = before ++ (t, op) :: after)
    (hs : P s) (hkept : ∀ x ∈ before, P x.1 → P (perform x.1 x.2)) : P t := by
  induction before generalizing s ops with
  | nil =>
    cases ops with
    | nil => cases h
    | cons first ops =>
      obtain ⟨hfirst, -⟩ := List.cons.inj h
      cases hfirst
      exact hs
  | cons x before ih =>
    cases ops with
    | nil => cases h
    | cons first ops =>
      rw [steps, List.cons_append] at h
      obtain ⟨rfl, hrest⟩ := List.cons.inj h
      exact ih hrest (hkept _ List.mem_cons_self hs)
        fun y hy => hkept y (List.mem_cons_of_mem _ hy)

theorem holds_run {P : State → Prop} {s : State} {ops : List Operation} (hs : P s)
    (hkept : ∀ x ∈ steps s ops, P x.1 → P (perform x.1 x.2)) : P (run s ops) := by
  induction ops generalizing s with
  | nil => exact hs
  | cons op ops ih =>
    rw [steps] at hkept
    exact ih (hkept _ List.mem_cons_self hs) fun y hy => hkept y (List.mem_cons_of_mem _ hy)

end NetDelegate.Engine
