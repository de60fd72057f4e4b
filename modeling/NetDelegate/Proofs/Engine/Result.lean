/-
  NetDelegate/Proofs/Engine/Result.lean
  =====================================
  **Results of setting up, as JSON.**  The output of a plugin is taken for a result just when it is
  a value of the grammar.  To read such a value takes more (`Json.Outline.IsReadable`), so there are
  results that cannot be read (`result_not_readable`).
-/
import NetDelegate.Proofs.Engine.Attach
import NetDelegate.Proofs.Json.Reading

namespace NetDelegate

open Json (Blanks Outline)

namespace AddResult

/-- The result is this value, with blanks around it. -/
def IsOutlined (r : AddResult) (o : Outline .value) : Prop :=
  ∃ before after : Blanks, r.bytes = before.1 ++ (o.text ++ after.1)

theorem ofBytes_eq_ok_iff {raw : Bytes} {r : AddResult} :
    ofBytes raw = .ok r ↔ r.bytes = raw ∧ ∃ o, r.IsOutlined o := by
  have hscan : Json.scan raw = .ok () ↔ ∃ o, IsOutlined ⟨raw⟩ o := by
    rw [Json.scan_eq_ok_iff]
    constructor
    · rintro ⟨before, o, after, hraw⟩
      exact ⟨o, before, after, hraw⟩
    · rintro ⟨o, before, after, hraw⟩
      exact ⟨before, o, after, hraw⟩
  constructor
  · intro h
    unfold ofBytes at h
    split at h
    · next hok =>
      cases h
      exact ⟨rfl, hscan.1 hok⟩
    · cases h
  · rintro ⟨rfl, houtlined⟩
    rw [ofBytes, hscan.2 houtlined]

theorem exists_toJson_iff {r : AddResult} {o : Outline .value} (h : r.IsOutlined o) :
    (∃ j, r.toJson = .ok j) ↔ o.IsReadable := by
  obtain ⟨before, after, hbytes⟩ := h
  rw [← Json.exists_parse_eq_ok_iff before o after, ← hbytes, toJson]
  cases Json.parse r.bytes with
  | error e => simp [Except.mapError]
  | ok j => simp [Except.mapError]

end AddResult

/-- The result of a call is its output, taken for a result. -/
theorem Delegator.ofBytes_of_attach {ps : Processes} {earlier : List Call} {call : Call}
    {r : AddResult} (h : (ofProcesses ps).attach earlier call = .ok r) :
    AddResult.ofBytes r.bytes = .ok r := by
  obtain ⟨output, -, hresult⟩ := Json.exists_of_bind_eq_ok h
  unfold resultOf at hresult
  split at hresult
  · next hok =>
    cases hresult
    rw [(AddResult.ofBytes_eq_ok_iff.1 hok).1, hok]
  · cases hresult

namespace Engine

theorem ofBytes_of_attach {w : World} {ps : Processes} {context : Context} {text : Bytes}
    {s : State} {r : AddResult} (hdelegator : w.delegator = Delegator.ofProcesses ps)
    (h : (attach w context text s).1 = .ok r) : AddResult.ofBytes r.bytes = .ok r := by
  obtain ⟨retrieved, log, hretrieved⟩ := retrieval w context text s.requests
  match retrieved with
  | .error e =>
    rw [attach_of_error hretrieved] at h
    cases h
  | .ok (value, list) =>
    cases hput : (Scratch.put s.scratch context.containerId value w.disk).1 with
    | error failure =>
      rw [attach_of_put_error hretrieved (Prod.ext hput rfl)] at h
      cases h
    | ok u =>
      obtain ⟨made, outcome, -, hok, hattach⟩ := attach_of_put hretrieved (Prod.ext hput rfl)
      rw [hattach, lift_firstResult_eq_ok_iff] at h
      obtain ⟨answers, hanswers⟩ := h
      obtain ⟨calls, -, hanswered⟩ := (hok _).1 hanswers
      -- the result is the answer to the first call
      rw [hdelegator] at hanswered
      cases hanswered with
      | cons hcall hcalls => exact Delegator.ofBytes_of_attach hcall

/-- **Which output is a result, and which results can be read.**  The output of a plugin is a
    result, byte for byte, just when it is a value with blanks around it; and the result of setting
    up is such output.  It can be read just when the value is not nested too deep, its strings are
    texts and its numbers are in range. -/
theorem result_readable_iff (raw : Bytes) (r : AddResult) :
    (AddResult.ofBytes raw = .ok r ↔ r.bytes = raw ∧ ∃ o, r.IsOutlined o) ∧
      (∀ o, r.IsOutlined o → ((∃ j, r.toJson = .ok j) ↔ o.IsReadable)) ∧
      ∀ w ps context text s, w.delegator = Delegator.ofProcesses ps →
        (attach w context text s).1 = .ok r → AddResult.ofBytes r.bytes = .ok r := by
  refine ⟨AddResult.ofBytes_eq_ok_iff, ?_, ?_⟩
  · intro o ho
    exact AddResult.exists_toJson_iff ho
  · intro w ps context text s hdelegator h
    exact ofBytes_of_attach hdelegator h

/-- A string with a byte that is no text is a result, and cannot be read. -/
theorem result_not_readable :
    AddResult.ofBytes [0x22, 0xFF, 0x22] = .ok ⟨[0x22, 0xFF, 0x22]⟩ ∧
      ¬∃ j, AddResult.toJson ⟨[0x22, 0xFF, 0x22]⟩ = .ok j := by
  refine ⟨by decide +kernel, ?_⟩
  rintro ⟨j, hread⟩
  have hnone : (AddResult.toJson ⟨[0x22, 0xFF, 0x22]⟩).isOk = false := by decide +kernel
  rw [hread] at hnone
  cases hnone

end Engine

end NetDelegate
