/-
  NetDelegate/Proofs/Plugin/Outcome.lean
  ======================================
  **What a call comes to, by the process that it starts** (`answers_of_process`).  A call succeeds
  just when its process is started, takes or closes its input, and ends well; when it adds, what was
  printed has to be a value as well.  The one process that is asked for decides everything.  When it
  ends badly, the error is the one that it printed; a process that printed none is quoted from its
  standard error, and failing that by how it ended (`Reported`).
-/
import NetDelegate.Proofs.Plugin.Execution
import NetDelegate.Proofs.Plugin.Start

namespace NetDelegate

namespace Plugin

/-! ### Processes that end badly -/

/-- The code and the message of the error when a process ends badly. -/
inductive Reported (binary : String) (exit : Exit) : Option UInt32 → String → Prop
  /-- The output is an error object, and has details. -/
  | detailed {r : ErrorReport} {details : String} (hreport : ErrorReport.parse exit.output = .ok r)
      (hdetails : r.details = some details) (hne : details ≠ "") :
      Reported binary exit (some r.code) (r.message ++ "; " ++ details)
  /-- It is one without details. -/
  | brief {r : ErrorReport} (hreport : ErrorReport.parse exit.output = .ok r)
      (hdetails : r.details = none ∨ r.details = some "") :
      Reported binary exit (some r.code) r.message
  /-- The output is no error object, and there is something on standard error. -/
  | quoted (hnone : ∀ r, ErrorReport.parse exit.output ≠ .ok r)
      (hne : trim exit.errors.textLossy ≠ "") :
      Reported binary exit none (trim exit.errors.textLossy)
  /-- There is nothing on standard error, either. -/
  | silent (hnone : ∀ r, ErrorReport.parse exit.output ≠ .ok r)
      (hempty : trim exit.errors.textLossy = "") :
      Reported binary exit none (binary ++ " exited with " ++ exit.status.text)

theorem exists_reported (plugin binary : String) (exit : Exit) :
    ∃ code message, Reported binary exit code message ∧
      exitError plugin binary exit = .pluginFailed plugin code message := by
  unfold exitError
  cases hparse : ErrorReport.parse exit.output with
  | ok r =>
    refine ⟨some r.code, reportText r, ?_, rfl⟩
    unfold reportText
    split
    · next hdetails => exact .brief hparse (.inl hdetails)
    · next hdetails => exact .brief hparse (.inr hdetails)
    · next details hne hdetails => exact .detailed hparse hdetails hne
  | error e =>
    have hnone : ∀ r, ErrorReport.parse exit.output ≠ .ok r := by
      intro r hr
      rw [hparse] at hr
      cases hr
    refine ⟨none, _, ?_, rfl⟩
    split
    · next hempty => exact .silent hnone hempty
    · next hne => exact .quoted hnone hne

/-! ### Processes and answers -/

/-- The call starts this process, which takes or closes its input, and ends like this. -/
structure Completes (isFile : Bytes → Bool) (spawn : Spawn) (earlier : List Call) (call : Call)
    (i : Invocation) (exit : Exit) : Prop where
  starts : Starts isFile call i
  spawned : ∃ feeding, spawn earlier i = .ok ⟨feeding, .ok exit⟩ ∧
    ∀ message, feeding ≠ .broken message

section
variable {isFile : Bytes → Bool} {spawn : Spawn} {earlier : List Call} {call : Call}
  {i : Invocation} {exit : Exit}

theorem ending_eq_ended_iff {c : Child} :
    c.ending = .ended exit ↔ c.exit = .ok exit ∧ ∀ message, c.feeding ≠ .broken message := by
  obtain ⟨feeding, waited⟩ := c
  cases waited with
  | error message => simp [Child.ending]
  | ok exit' => cases feeding <;> simp [Child.ending]

theorem completes_iff :
    Completes isFile spawn earlier call i exit ↔
      invocation isFile call = .ok i ∧
        (Processes.ofSpawn isFile spawn).run earlier i = .ended exit := by
  have hrun : (Processes.ofSpawn isFile spawn).run earlier i = .ended exit ↔
      ∃ feeding, spawn earlier i = .ok ⟨feeding, .ok exit⟩ ∧
        ∀ message, feeding ≠ .broken message := by
    simp only [Processes.ofSpawn]
    cases hspawn : spawn earlier i with
    | error fault => simp
    | ok child =>
      obtain ⟨feeding, waited⟩ := child
      simp [ending_eq_ended_iff]
  rw [hrun, invocation_eq_ok_iff]
  exact ⟨fun h => ⟨h.starts, h.spawned⟩, fun h => ⟨h.1, h.2⟩⟩

theorem execute_ofSpawn_eq_ok_iff {output : Bytes} :
    execute (.ofSpawn isFile spawn) earlier call = .ok output ↔
      ∃ i exit, Completes isFile spawn earlier call i exit ∧ exit.status = .code 0 ∧
        exit.output = output := by
  rw [execute_eq_ok_iff]
  constructor
  · rintro ⟨errors, i, hi, hrun⟩
    exact ⟨i, _, completes_iff.2 ⟨hi, hrun⟩, rfl, rfl⟩
  · rintro ⟨i, ⟨status, out, errors⟩, hcompletes, hstatus, hout⟩
    obtain ⟨hi, hrun⟩ := completes_iff.1 hcompletes
    obtain rfl : status = .code 0 := hstatus
    obtain rfl : out = output := hout
    exact ⟨errors, i, hi, hrun⟩

/-- No process but that of the call is asked for. -/
theorem execute_ofSpawn_congr {spawn' : Spawn}
    (h : ∀ i, Starts isFile call i → spawn' earlier i = spawn earlier i) :
    execute (.ofSpawn isFile spawn') earlier call = execute (.ofSpawn isFile spawn) earlier call := by
  unfold execute
  simp only [Processes.ofSpawn]
  cases hi : invocation isFile call with
  | error e => rfl
  | ok i =>
    simp only [bind, Except.bind]
    rw [h i (invocation_eq_ok_iff.1 hi)]

end

end Plugin

namespace Delegator

open Plugin (Starts Completes Reported)

/-- **The answers to a call.**  Adding succeeds just when the call starts a process that takes or
    closes its input and ends with status 0, and whose output is a result; the result then is that
    output, byte for byte.  Deleting succeeds just when all this holds but for the output.  A call
    starts one process at most, with all that `Starts` lists, and no other process matters to the
    answers.  When that process ends badly, the error is the one of `Reported`. -/
theorem answers_of_process (isFile : Bytes → Bool) (spawn : Spawn) (earlier : List Call)
    (call : Call) :
    let delegator := ofProcesses (.ofSpawn isFile spawn)
    (∀ r, delegator.attach earlier call = .ok r ↔
      ∃ i exit, Completes isFile spawn earlier call i exit ∧ exit.status = .code 0 ∧
        AddResult.ofBytes exit.output = .ok r ∧ r.bytes = exit.output) ∧
    (delegator.detach earlier call = .ok () ↔
      ∃ i exit, Completes isFile spawn earlier call i exit ∧ exit.status = .code 0) ∧
    (∀ i j, Starts isFile call i → Starts isFile call j → i = j) ∧
    (∀ spawn' : Spawn, (∀ i, Starts isFile call i → spawn' earlier i = spawn earlier i) →
      (ofProcesses (.ofSpawn isFile spawn')).attach earlier call = delegator.attach earlier call ∧
      (ofProcesses (.ofSpawn isFile spawn')).detach earlier call = delegator.detach earlier call) ∧
    ∀ i exit, Completes isFile spawn earlier call i exit → exit.status ≠ .code 0 →
      ∃ code message, Reported i.binary exit code message ∧
        delegator.attach earlier call = .error (.pluginFailed call.plugin code message) ∧
        delegator.detach earlier call = .error (.pluginFailed call.plugin code message) := by
  intro delegator
  refine ⟨?_, ?_, fun i j => Starts.unique, ?_, ?_⟩
  · intro r
    rw [attach_eq_ok_iff, Plugin.execute_ofSpawn_eq_ok_iff]
    constructor
    · rintro ⟨⟨i, exit, hcompletes, hstatus, hout⟩, houtlined⟩
      exact ⟨i, exit, hcompletes, hstatus,
        AddResult.ofBytes_eq_ok_iff.2 ⟨hout.symm, houtlined⟩, hout.symm⟩
    · rintro ⟨i, exit, hcompletes, hstatus, hresult, hbytes⟩
      exact ⟨⟨i, exit, hcompletes, hstatus, hbytes.symm⟩, (AddResult.ofBytes_eq_ok_iff.1 hresult).2⟩
  · rw [detach_eq_ok_iff]
    constructor
    · rintro ⟨output, hexecute⟩
      obtain ⟨i, exit, hcompletes, hstatus, -⟩ := Plugin.execute_ofSpawn_eq_ok_iff.1 hexecute
      exact ⟨i, exit, hcompletes, hstatus⟩
    · rintro ⟨i, exit, hcompletes, hstatus⟩
      exact ⟨exit.output, Plugin.execute_ofSpawn_eq_ok_iff.2 ⟨i, exit, hcompletes, hstatus, rfl⟩⟩
  · intro spawn' hspawn
    have hexecute := Plugin.execute_ofSpawn_congr hspawn
    constructor
    · simp only [delegator, ofProcesses, hexecute]
    · simp only [delegator, ofProcesses, hexecute]
  · intro i exit hcompletes hstatus
    obtain ⟨code, message, hreported, hexit⟩ := Plugin.exists_reported call.plugin i.binary exit
    obtain ⟨hi, hrun⟩ := Plugin.completes_iff.1 hcompletes
    have hexecute : Plugin.execute (.ofSpawn isFile spawn) earlier call =
        .error (.pluginFailed call.plugin code message) := by
      rw [Plugin.execute_of_ended hi hrun, if_neg hstatus, hexit]
    refine ⟨code, message, hreported, ?_, ?_⟩
    · simp only [delegator, ofProcesses, hexecute]
      rfl
    · simp only [delegator, ofProcesses, hexecute]
      rfl

end Delegator

end NetDelegate
