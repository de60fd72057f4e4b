/-
  NetDelegate/Proofs/Plugin/Process.lean
  ======================================
  **What running a plugin comes to.**  Its process ends, or the plugin is not found, or the call
  fails before that (`ended_or_unended`).  The errors of all this are errors of delegation.
-/
import NetDelegate.Plugin.Delegator
import NetDelegate.Proofs.Plugin.Search

namespace NetDelegate

namespace Plugin

section
variable {ps : Processes} {earlier : List Call} {call : Call} {e : Error}

/-- The errors of a call whose process does not end. -/
inductive IsUnended (call : Call) : Error → Prop
  /-- The plugin is not found. -/
  | notFound : IsUnended call (.pluginNotFound call.plugin (":".intercalate call.context.path))
  /-- There is no process, or it cannot be waited for. -/
  | failed (message : String) : IsUnended call (failed call message)

theorem IsUnended.of_invocation {isFile : Bytes → Bool} (h : invocation isFile call = .error e) :
    IsUnended call e := by
  unfold invocation at h
  cases hfind : find isFile call.plugin call.context.path with
  | error missing =>
    obtain ⟨-, rfl⟩ := find_eq_error_iff.1 hfind
    rw [hfind] at h
    cases h
    exact .notFound
  | ok binary =>
    rw [hfind] at h
    simp only [bind, Except.bind] at h
    split at h
    · cases h
      exact .failed _
    · split at h
      · cases h
        exact .failed _
      · cases h

/-- What becomes of a plugin that is started. -/
theorem execute_of_invocation {i : Invocation} (hi : invocation ps.isFile call = .ok i) :
    execute ps earlier call = match ps.run earlier i with
      | .notStarted fault =>
        .error (failed call ("cannot execute " ++ i.binary ++ ": " ++ fault.text))
      | .lost message => .error (failed call message)
      | .unfed message => .error (failed call ("writing config to stdin: " ++ message))
      | .ended exit =>
        if exit.status = .code 0 then .ok exit.output
        else .error (exitError call.plugin i.binary exit) := by
  rw [execute, hi]
  rfl

theorem execute_of_ended {i : Invocation} {exit : Exit} (hi : invocation ps.isFile call = .ok i)
    (hrun : ps.run earlier i = .ended exit) :
    execute ps earlier call =
      if exit.status = .code 0 then .ok exit.output
      else .error (exitError call.plugin i.binary exit) := by
  rw [execute_of_invocation hi, hrun]

/-- The process of a call ends, or the call fails without it. -/
theorem ended_or_unended (ps : Processes) (earlier : List Call) (call : Call) :
    (∃ i exit, invocation ps.isFile call = .ok i ∧ ps.run earlier i = .ended exit) ∨
      ∃ e, execute ps earlier call = .error e ∧ IsUnended call e := by
  cases hi : invocation ps.isFile call with
  | error e =>
    refine .inr ⟨e, ?_, .of_invocation hi⟩
    rw [execute, hi]
    rfl
  | ok i =>
    have hexecute : execute ps earlier call = _ := execute_of_invocation hi
    cases hrun : ps.run earlier i with
    | notStarted fault => exact .inr ⟨_, by rw [hexecute, hrun], .failed _⟩
    | lost message => exact .inr ⟨_, by rw [hexecute, hrun], .failed _⟩
    | unfed message => exact .inr ⟨_, by rw [hexecute, hrun], .failed _⟩
    | ended exit => exact .inl ⟨i, exit, rfl, hrun⟩

/-! ### Errors of delegation -/

theorem category_exitError (plugin binary : String) (exit : Exit) :
    (exitError plugin binary exit).category = .delegation := by
  unfold exitError
  split <;> rfl

theorem category_of_execute_error (h : execute ps earlier call = .error e) :
    e.category = .delegation := by
  rcases ended_or_unended ps earlier call with ⟨i, exit, hi, hrun⟩ | ⟨e', he', hunended⟩
  · rw [execute_of_ended hi hrun] at h
    split at h
    · cases h
    · cases h
      exact category_exitError _ _ _
  · rw [h] at he'
    cases he'
    cases hunended <;> rfl

end

end Plugin

/-- Adding fails with an error of delegation only: output that is no result is one, too. -/
theorem Delegator.category_of_attach_error {ps : Processes} {earlier : List Call} {call : Call}
    {e : Error} (h : (ofProcesses ps).attach earlier call = .error e) :
    e.category = .delegation := by
  simp only [ofProcesses] at h
  cases hexecute : Plugin.execute ps earlier call with
  | error missing =>
    rw [hexecute] at h
    cases h
    exact Plugin.category_of_execute_error hexecute
  | ok output =>
    rw [hexecute] at h
    change resultOf call output = .error e at h
    unfold resultOf at h
    split at h
    · cases h
    · cases h
      rfl

/-- Deleting fails with an error of delegation only: what the plugin writes is not read. -/
theorem Delegator.category_of_detach_error {ps : Processes} {earlier : List Call} {call : Call}
    {e : Error} (h : (ofProcesses ps).detach earlier call = .error e) :
    e.category = .delegation := by
  simp only [ofProcesses] at h
  cases hexecute : Plugin.execute ps earlier call with
  | error missing =>
    rw [hexecute] at h
    cases h
    exact Plugin.category_of_execute_error hexecute
  | ok output =>
    rw [hexecute] at h
    cases h

end NetDelegate
