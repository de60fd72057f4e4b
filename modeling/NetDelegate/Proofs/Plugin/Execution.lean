/-
  NetDelegate/Proofs/Plugin/Execution.lean
  ========================================
  **How the call of a plugin ends.**  It succeeds just when its process ends well, and then what
  the process printed is the output (`execute_eq_ok_iff`).  If it fails, the code of the error is
  one of three, unless the process ended badly and named a code itself
  (`reports_of_execute_error`).
-/
import NetDelegate.Proofs.Engine.Result
import NetDelegate.Proofs.Plugin.Process

namespace NetDelegate

namespace Plugin

/-- The plugin of a call is found and started, and its process ends like this. -/
def EndsWith (ps : Processes) (earlier : List Call) (call : Call) (exit : Exit) : Prop :=
  ∃ i, invocation ps.isFile call = .ok i ∧ ps.run earlier i = .ended exit

/-- The process of a call ends badly, after it has printed an error object. -/
def Reports (ps : Processes) (earlier : List Call) (call : Call) (report : ErrorReport) : Prop :=
  ∃ exit, EndsWith ps earlier call exit ∧ exit.status ≠ .code 0 ∧
    ErrorReport.parse exit.output = .ok report

/-- The codes of failed calls whose plugin printed no error object. -/
def ownCodes : List UInt32 := [103, 104, Error.unknownPluginCode]

theorem IsUnended.code_mem {call : Call} {e : Error} (h : IsUnended call e) : e.code ∈ ownCodes := by
  cases h with
  | notFound => exact (by decide : (104 : UInt32) ∈ ownCodes)
  | failed message => exact (by decide : (103 : UInt32) ∈ ownCodes)

theorem code_pluginFailed (plugin message : String) :
    (Error.pluginFailed plugin none message).code ∈ ownCodes :=
  (by decide : Error.unknownPluginCode ∈ ownCodes)

section
variable {ps : Processes} {earlier : List Call} {call : Call} {e : Error}

/-- **A call succeeds** just when its process ends well, and gives what was printed. -/
theorem execute_eq_ok_iff {output : Bytes} :
    execute ps earlier call = .ok output ↔
      ∃ errors, EndsWith ps earlier call ⟨.code 0, output, errors⟩ := by
  constructor
  · intro h
    rcases ended_or_unended ps earlier call with ⟨i, ⟨status, out, errors⟩, hi, hrun⟩ | ⟨e, he, -⟩
    · rw [execute_of_ended hi hrun] at h
      split at h
      · next hstatus =>
        cases h
        cases hstatus
        exact ⟨errors, i, hi, hrun⟩
      · cases h
    · rw [he] at h
      cases h
  · rintro ⟨errors, i, hi, hrun⟩
    rw [execute_of_ended hi hrun, if_pos rfl]

/-- **A call fails** with what its plugin reported, or with one of three codes. -/
theorem reports_of_execute_error (h : execute ps earlier call = .error e) :
    (∃ report, Reports ps earlier call report ∧
      e = .pluginFailed call.plugin (some report.code) (reportText report)) ∨
      e.code ∈ ownCodes := by
  rcases ended_or_unended ps earlier call with ⟨i, exit, hi, hrun⟩ | ⟨e', he', hunended⟩
  · rw [execute_of_ended hi hrun] at h
    split at h
    · cases h
    · next hstatus =>
      cases h
      unfold exitError
      split
      · next report hreport =>
        exact .inl ⟨report, ⟨exit, ⟨i, hi, hrun⟩, hstatus, hreport⟩, rfl⟩
      · exact .inr (code_pluginFailed _ _)
  · rw [h] at he'
    cases he'
    exact .inr hunended.code_mem

end

end Plugin

namespace Delegator

variable {ps : Processes} {earlier : List Call} {call : Call}

/-- Adding succeeds with output that is a value. -/
theorem attach_eq_ok_iff {r : AddResult} :
    (ofProcesses ps).attach earlier call = .ok r ↔
      Plugin.execute ps earlier call = .ok r.bytes ∧ ∃ o, r.IsOutlined o := by
  have hresult {output : Bytes} :
      resultOf call output = .ok r ↔ r.bytes = output ∧ ∃ o, r.IsOutlined o := by
    rw [← AddResult.ofBytes_eq_ok_iff, resultOf]
    cases AddResult.ofBytes output with
    | ok r' => rfl
    | error e =>
      constructor
      · intro h
        cases h
      · intro h
        cases h
  constructor
  · intro h
    obtain ⟨output, hexecute, houtput⟩ := Json.exists_of_bind_eq_ok h
    obtain ⟨rfl, houtlined⟩ := hresult.1 houtput
    exact ⟨hexecute, houtlined⟩
  · rintro ⟨hexecute, houtlined⟩
    simp only [ofProcesses, hexecute]
    exact hresult.2 ⟨rfl, houtlined⟩

/-- Deleting succeeds when the call does, whatever was printed. -/
theorem detach_eq_ok_iff :
    (ofProcesses ps).detach earlier call = .ok () ↔
      ∃ output, Plugin.execute ps earlier call = .ok output := by
  simp only [ofProcesses]
  cases Plugin.execute ps earlier call with
  | error e =>
    refine iff_of_false ?_ ?_
    · intro h
      cases h
    · rintro ⟨output, houtput⟩
      cases houtput
  | ok output => exact iff_of_true rfl ⟨output, rfl⟩

/-- Deleting fails as the plugin does. -/
theorem execute_of_detach_error {e : Error} (h : (ofProcesses ps).detach earlier call = .error e) :
    Plugin.execute ps earlier call = .error e := by
  simp only [ofProcesses] at h
  cases hexecute : Plugin.execute ps earlier call with
  | error e' =>
    rw [hexecute] at h
    cases h
    rfl
  | ok output =>
    rw [hexecute] at h
    cases h

end Delegator

end NetDelegate
