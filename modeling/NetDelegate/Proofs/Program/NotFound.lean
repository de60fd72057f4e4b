/-
  NetDelegate/Proofs/Program/NotFound.lean
  ========================================
  **What the code of a missing record says.**  A run that tears down and reports this code found no
  record, called no plugin and left the records as they were; or else it called plugins, and the
  last of them reported the code itself (`run_notFound_code`).  All other errors of tearing down
  have other codes.
-/
import NetDelegate.Proofs.Config.Failure
import NetDelegate.Proofs.Program.Options
import NetDelegate.Proofs.Program.Output

namespace NetDelegate

/-- The code of a missing record. -/
def notFoundCode : UInt32 := 101

/-! ### Taking a record -/

theorem Failure.IsRefusal.code_ne {e : Error} (h : IsRefusal (.error e)) :
    e.code ≠ notFoundCode := by
  cases h with
  | malformed message => exact (by decide : (6 : UInt32) ≠ notFoundCode)
  | invalid field value reason => exact (by decide : (7 : UInt32) ≠ notFoundCode)

namespace Scratch

theorem eq_noEntry_of_claimError {id : String} {errno : Errno}
    (h : (claimError id errno).code = notFoundCode) : errno = .noEntry := by
  by_contra hne
  rw [claimError, if_neg hne] at h
  exact absurd h (by decide : (5 : UInt32) ≠ notFoundCode)

/-- Renaming finds nothing only where there is nothing. -/
theorem eq_none_of_movedNode {disk : Disk} {old new : FileName} {before after : Option Node}
    (h : movedNode disk old new before after = .error .noEntry) : before = none := by
  unfold movedNode at h
  split at h
  · next fault hfault => exact absurd (Except.error.inj h) fault.2
  · split at h
    · cases h
    · split at h
      · rfl
      · split at h
        · cases h
        · split at h <;> cases h

/-- Where claiming a record fails with this code there is none. -/
theorem claim_notFound {pid : Nat} {place : Place} {id : String} {disk : Disk} {e : Error}
    (h : claim pid place id disk = failWith e) (hcode : e.code = notFoundCode) :
    e = .recordNotFound id ∧ place.find? (recordName id) = none := by
  unfold claim at h
  split at h
  · next f hid =>
    cases h
    exact absurd hcode (ContainerId.failsOnly_check id _ hid).code_ne
  · split at h
    · cases h
      obtain rfl := eq_noEntry_of_claimError hcode
      exact ⟨rfl, rfl⟩
    · cases h
      exact ⟨rfl, rfl⟩
    · split at h
      · next mode es _ errno hmove =>
        cases h
        obtain rfl := eq_noEntry_of_claimError hcode
        rw [move_eq] at hmove
        unfold Except.map at hmove
        split at hmove
        · next hm =>
          cases hmove
          exact ⟨rfl, eq_none_of_movedNode hm⟩
        · cases hmove
      · cases h
    · cases h
      exact absurd (eq_noEntry_of_claimError hcode) (by decide)

/-- Where taking a record fails with this code there is none, and nothing is changed. -/
theorem take_notFound {pid : Nat} {place : Place} {id : String} {disk : Disk} {e : Error}
    (h : (take pid place id disk).1 = failWith e) (hcode : e.code = notFoundCode) :
    e = .recordNotFound id ∧ place.find? (recordName id) = none ∧
      (take pid place id disk).2 = place := by
  generalize hr : take pid place id disk = r at h
  cases hr ▸ takeStep pid disk place id with
  | unclaimed hclaim =>
    cases h
    obtain ⟨he, hnone⟩ := claim_notFound hclaim hcode
    exact ⟨he, hnone, rfl⟩
  | unread hid hm hread =>
    cases h
    exact absurd hcode (by decide : (5 : UInt32) ≠ notFoundCode)
  | taken hid hm hread => cases h

end Scratch

theorem NetworkList.code_of_parse_error {text : Bytes} {e : Error}
    (h : parse text = failWith e) : e.code ≠ notFoundCode := by
  unfold parse at h
  split at h
  · cases h
    exact (by decide : (7 : UInt32) ≠ notFoundCode)
  · cases h
    exact (by decide : (7 : UInt32) ≠ notFoundCode)
  · cases h

theorem Options.code_of_context_error {o : Options} {e : Error} (h : o.context = failWith e) :
    e.code ≠ notFoundCode := by
  unfold context at h
  split at h
  · cases h
    exact (by decide : (4 : UInt32) ≠ notFoundCode)
  · next id _ =>
    cases hcheck : ContainerId.check id with
    | error f =>
      rw [hcheck] at h
      cases h
      exact (ContainerId.failsOnly_check id _ hcheck).code_ne
    | ok u =>
      rw [hcheck] at h
      cases h

/-! ### Tearing down -/

namespace Engine

/-- There was no record for a container, and tearing it down did nothing. -/
structure NothingDone (id : String) (before after : State) : Prop where
  noRecord : before.scratch.find? (Scratch.recordName id) = none
  noCalls : after.calls = before.calls
  unchanged : after.scratch = before.scratch

/-- **Where tearing down fails with this code,** nothing was done, or the last call failed so. -/
theorem detach_notFound {w : World} {context : Context} {s : State} {e : Error}
    (h : (detach w context s).1 = failWith e) (hcode : e.code = notFoundCode) :
    (e = .recordNotFound context.containerId ∧
        NothingDone context.containerId s (detach w context s).2) ∨
      ∃ made call, (detach w context s).2.calls = s.calls ++ (made ++ [call]) ∧
        w.delegator.detach (s.calls ++ made) call = .error e := by
  cases htake : (Scratch.take w.pid s.scratch context.containerId w.disk).1 with
  | error f =>
    obtain ⟨hfails, hcalls⟩ := detach_of_take_error htake
    obtain rfl : f = .error e := Except.error.inj (hfails.symm.trans h)
    obtain ⟨he, hnone, hplace⟩ := Scratch.take_notFound htake hcode
    exact .inl ⟨he, hnone, hcalls, (scratch_detach w context s).trans hplace⟩
  | ok value =>
    obtain ⟨made, hevents, hdone⟩ := detach_of_taken htake
    cases hparse : NetworkList.parse value with
    | error f =>
      rw [hparse] at hdone
      obtain rfl : f = .error e := Except.error.inj (hdone.2.symm.trans h)
      exact absurd hcode (NetworkList.code_of_parse_error hparse)
    | ok list =>
      rw [hparse] at hdone
      obtain ⟨r, hcourse, hr⟩ := hdone
      rw [h] at hr
      cases r with
      | ok answers => cases hr
      | error e' =>
        cases hr
        rcases hcourse.of_error with ⟨i, rfl⟩ | ⟨before, call, rfl, hcall⟩
        · exact absurd hcode (by decide : (7 : UInt32) ≠ notFoundCode)
        · refine .inr ⟨before, call, ?_, hcall⟩
          rw [State.calls, hevents]
          exact calls_append_act rfl s.events (before ++ [call])

end Engine

/-! ### Running -/

namespace Program

theorem parse_nil_ne_ok {report : ErrorReport} : ErrorReport.parse [] ≠ .ok report := by
  intro h
  have hnone : (ErrorReport.parse []).isOk = false := by decide +kernel
  rw [h] at hnone
  cases hnone

/-- What is printed by a run that failed is the report of its error, if it is a report. -/
theorem report_of_failed {f : Failure} {bytes : Bytes} {traces : Option (Bytes × State)}
    {report : ErrorReport} (h : ErrorReport.parse (failed f bytes traces).output = .ok report) :
    ∃ e, f = .error e ∧ report = .ofError e (versionOf? bytes) := by
  cases f with
  | error e => exact ⟨e, rfl, Except.ok.inj (h.symm.trans (ErrorReport.parse_line _))⟩
  | breakdown message => exact absurd h parse_nil_ne_ok

section
variable {m : Machine} {ps : Processes} {o : Options} {input : Input} {report : ErrorReport}

/-- The errors of a run that tears down and reports this code are those of tearing down. -/
theorem exists_detach_of_report
    (hreport : ErrorReport.parse (delegate m o .del input).output = .ok report)
    (hcode : report.code = notFoundCode) :
    ∃ context e, o.containerId = some context.containerId ∧
      (Engine.detach m.world context (m.start o.stateDir)).1 = failWith e ∧
      report = .ofError e (versionOf? input.bytes) ∧
      delegate m o .del input = failed (.error e) input.bytes
        (some (o.stateDir, (Engine.detach m.world context (m.start o.stateDir)).2)) := by
  have hreported {f : Failure} {traces : Option (Bytes × State)}
      (hrun : delegate m o .del input = failed f input.bytes traces) :
      ∃ e, f = .error e ∧ report = .ofError e (versionOf? input.bytes) := by
    rw [hrun] at hreport
    exact report_of_failed hreport
  cases hfault : input.fault with
  | some fault =>
    obtain ⟨traces, hrun⟩ : ∃ traces, _ := (Fails.unread hfault).delegate_eq
    obtain ⟨e, he, rfl⟩ := hreported hrun
    cases he
    exact absurd hcode (by decide : (5 : UInt32) ≠ notFoundCode)
  | none =>
    cases hcontext : o.context with
    | error f =>
      obtain ⟨traces, hrun⟩ : ∃ traces, _ := (Fails.refused hfault hcontext).delegate_eq
      obtain ⟨e, rfl, rfl⟩ := hreported hrun
      exact absurd hcode (Options.code_of_context_error hcontext)
    | ok context =>
      have hrun := delegate_del hfault hcontext (m := m)
      cases hends : (Engine.detach m.world context (m.start o.stateDir)).1 with
      | ok u =>
        rw [hrun, ended_of_ok _ _ _ hends] at hreport
        exact absurd hreport parse_nil_ne_ok
      | error f =>
        rw [ended_of_error _ _ _ hends] at hrun
        obtain ⟨e, rfl, rfl⟩ := hreported hrun
        exact ⟨context, e, (Options.context_eq_ok_iff.1 hcontext).1, hends, rfl, hrun⟩

/-- **What the code of a missing record says.**  A run that tears down reports this code.  Then
    there was no record of the container, no plugin was called and the folder of the records is as
    it was; or else plugins were called, and the last one ended badly after it had reported this
    code itself.  The message tells the one from the other. -/
theorem run_notFound_code (hps : m.delegator = Delegator.ofProcesses ps) {words : List Bytes}
    (ho : Options.read m.environment words = .ok o) (hdel : o.action = .delegate .del)
    (hreport : ErrorReport.parse (run m words input).output = .ok report)
    (hcode : report.code = notFoundCode) :
    ∃ id after, o.containerId = some id ∧ (run m words input).status = 1 ∧
      (run m words input).traces = some (o.stateDir, after) ∧
      ((report.message = (Error.recordNotFound id).message ∧
          Engine.NothingDone id (m.start o.stateDir) after) ∨
        ∃ made call reported, after.calls = made ++ [call] ∧
          Plugin.Reports ps made call reported ∧ reported.code = notFoundCode ∧
          report.message = (Error.pluginFailed call.plugin (some notFoundCode)
            (Plugin.reportText reported)).message) := by
  rw [run_delegate ho hdel] at hreport ⊢
  obtain ⟨context, e, hid, hends, rfl, hrun⟩ := exists_detach_of_report hreport hcode
  refine ⟨context.containerId, _, hid, by rw [hrun]; rfl, by rw [hrun]; rfl, ?_⟩
  rcases Engine.detach_notFound hends hcode with ⟨rfl, hnothing⟩ | ⟨made, call, hcalls, hcall⟩
  · exact .inl ⟨rfl, hnothing⟩
  · have hexecute : Plugin.execute ps made call = .error e :=
      Delegator.execute_of_detach_error (hps ▸ hcall)
    rcases Plugin.reports_of_execute_error hexecute with ⟨reported, hreports, rfl⟩ | hown
    · exact .inr ⟨made, call, reported, hcalls, hreports, hcode, rfl⟩
    · rw [show e.code = notFoundCode from hcode] at hown
      exact absurd hown (by decide)

end

/-- A plugin that ends badly and reports the code of a missing record. -/
def goneExit : Exit := ⟨.code 1, utf8 "\x7b\"code\":101,\"msg\":\"gone\"\x7d", []⟩

/-- Where there is no folder of records, nothing is done. -/
theorem run_notFound_code_of_missing :
    ∃ after, (run (teardownMachine goneExit .missing) [] ([] : Bytes)).traces =
        some (teardownOptions.stateDir, after) ∧
      Engine.NothingDone "a" ((teardownMachine goneExit .missing).start teardownOptions.stateDir)
        after := by
  have hreport :
      ErrorReport.parse (run (teardownMachine goneExit .missing) [] ([] : Bytes)).output =
        .ok (.ofError (.recordNotFound "a") none) :=
    Json.toOption_eq_some_iff.1 (by decide +kernel)
  have hcalls : (run (teardownMachine goneExit .missing) [] ([] : Bytes)).traces.map (·.2.calls) =
      some [] := by decide +kernel
  obtain ⟨id, after, hid, -, htraces, hdone⟩ :=
    run_notFound_code rfl read_teardownEnvironment rfl hreport rfl
  obtain rfl : "a" = id := Option.some.inj hid
  refine ⟨after, htraces, ?_⟩
  rcases hdone with ⟨-, hnothing⟩ | ⟨made, call, reported, hmade, -⟩
  · exact hnothing
  · rw [htraces, Option.map_some, hmade] at hcalls
    simp at hcalls

/-- **The code does not say that nothing was done:** there is a record, the plugin is called, and
    the record is gone, while the code is that of a missing record. -/
theorem notFound_code_of_plugin :
    let done := run (teardownMachine goneExit recordedPlace) [] ([] : Bytes)
    (ErrorReport.parse done.output).toOption.map (·.code) = some notFoundCode ∧
      (recordedPlace.find? (Scratch.recordName "a")).isSome = true ∧
      done.traces.map (fun t =>
        (t.2.calls.length, (t.2.scratch.find? (Scratch.recordName "a")).isSome)) =
          some (1, false) := by
  decide +kernel

end Program

end NetDelegate
