/-
  NetDelegate/Proofs/Scratch/Agreement.lean
  =========================================
  **Two folders that agree on one container.**  Two scratch folders `Agree` on an id if they keep
  the same bytes for it, have the same working files of it, and can both be opened or neither.  An
  operation on another id in one of the folders keeps them agreeing (`Agree.perform_left`), and so
  does an operation on the id itself in both of them (`Agree.perform_both`).  Its answer succeeds
  in both or in neither, but errors may differ: a record that is not there is looked for in a folder
  that another container has made, or in none.
-/
import NetDelegate.Proofs.Scratch.History

namespace NetDelegate.Scratch

/-- Two places agree on an id: they keep the same bytes for it and have the same working files of
    it, and a folder can be opened at both or at neither. -/
def Agree (id : String) (p q : Place) : Prop :=
  ∃ records records' : Records, Represents p records ∧ Represents q records' ∧
    records id = records' id ∧ (∀ name, IsWorkingName id name → p.find? name = q.find? name) ∧
    ((∃ opened, openFolder p = .ok opened) ↔ ∃ opened, openFolder q = .ok opened)

/-- The record of a container.  A text that is no id has none. -/
def recordOf (place : Place) (id : String) : Option Node :=
  if ContainerId.isValid id = true then place.find? (recordName id) else none

section
variable {id : String} {p q : Place}

theorem Agree.find?_recordName (h : Agree id p q) (hid : ContainerId.isValid id = true) :
    p.find? (recordName id) = q.find? (recordName id) := by
  obtain ⟨records, records', hp, hq, hsame, -⟩ := h
  rw [hp.find?_recordName hid, hq.find?_recordName hid, hsame]

theorem Agree.recordOf_eq (h : Agree id p q) : recordOf p id = recordOf q id := by
  unfold recordOf
  split
  · next hid => exact h.find?_recordName hid
  · rfl

theorem Agree.symm (h : Agree id p q) : Agree id q p := by
  obtain ⟨records, records', hp, hq, hsame, hworking, hopen⟩ := h
  exact ⟨records', records, hq, hp, hsame.symm, fun name hname => (hworking name hname).symm,
    hopen.symm⟩

theorem Agree.trans {r : Place} (h : Agree id p q) (h' : Agree id q r) : Agree id p r := by
  obtain ⟨records, kept, hp, hq, hsame, hworking, hopen⟩ := h
  obtain ⟨kept', records', hq', hr, hsame', hworking', hopen'⟩ := h'
  refine ⟨records, records', hp, hr, ?_, fun name hname => ?_, hopen.trans hopen'⟩
  · rw [hsame, hq.eq_of_represents hq', hsame']
  · rw [hworking name hname, hworking' name hname]

theorem Agree.put_eq_ok_iff (h : Agree id p q) {data : Bytes} {disk : Disk} :
    (put p id data disk).1 = .ok () ↔ (put q id data disk).1 = .ok () := by
  obtain ⟨records, records', hp, hq, -, -, hopen⟩ := h
  rw [hp.put_eq_ok_iff, hq.put_eq_ok_iff, hopen]

theorem Agree.take_eq_ok_iff (h : Agree id p q) {pid : Nat} {data : Bytes} {disk : Disk} :
    (take pid p id disk).1 = .ok data ↔ (take pid q id disk).1 = .ok data := by
  obtain ⟨records, records', hp, hq, hsame, -⟩ := h
  rw [hp.take_eq_ok_iff, hq.take_eq_ok_iff, hsame]

/-- An operation on another id, at one of the places. -/
theorem Agree.perform_left (h : Agree id p q) {op : Operation} (hne : op.id ≠ id) :
    Agree id (perform p op).2 q := by
  obtain ⟨records, records', hp, hq, hsame, hworking, hopen⟩ := h
  refine ⟨_, records', represents_perform hp op, hq, ?_, fun name hname => ?_, ?_⟩
  · rw [Records.after_of_not_changes (not_changes_of_ne op hne p), hsame]
  · have hplain := hp.linkFree.draftsArePlain.isPlain op
    rw [find?_workingName_perform hplain hname hne, hworking name hname]
  · rw [openable_perform_iff, hopen]

/-! ### One operation at both places -/

/-- The record is replaced at both places or at neither, and moved away from both or neither. -/
theorem Agree.after_eq (h : Agree id p q) {op : Operation} (hop : op.id = id)
    {records records' : Records} (hp : Represents p records) (hq : Represents q records')
    (hsame : records id = records' id) :
    records.after (perform p op).1 id = records'.after (perform q op).1 id := by
  obtain ⟨-, -, -, -, -, -, hopen⟩ := h
  subst hop
  cases op with
  | put id data disk =>
    have hsaved : (save p id data disk).1.isOk = (save q id data disk).1.isOk := by
      rw [Bool.eq_iff_iff, hp.isOk_save_iff, hq.isOk_save_iff, hopen]
    rw [perform, perform, hsaved]
    cases (save q id data disk).1.isOk with
    | false => exact hsame
    | true => exact (Records.set_self ..).trans (Records.set_self ..).symm
  | take pid id disk =>
    have hclaimed : (claim pid p id disk).isOk = (claim pid q id disk).isOk := by
      rw [Bool.eq_iff_iff, hp.isOk_claim_iff, hq.isOk_claim_iff]
      exact and_congr_left' (not_congr (by rw [show records id = records' id from hsame]))
    rw [perform, perform, hclaimed]
    cases (claim pid q id disk).isOk with
    | false => exact hsame
    | true => exact (Records.set_self ..).trans (Records.set_self ..).symm

theorem Agree.find?_put (h : Agree id p q) (hid : ContainerId.isValid id = true) (data : Bytes)
    (disk : Disk) {name : FileName} (hname : IsWorkingName id name) :
    (put p id data disk).2.find? name = (put q id data disk).2.find? name := by
  have hrecord := h.find?_recordName hid
  obtain ⟨records, records', hp, hq, -, hworking, hopen⟩ := h
  cases ho : openFolder p with
  | error e =>
    -- neither place can be opened, so both are left as they are
    cases ho' : openFolder q with
    | error e' => rw [put_of_openFolder_error ho, put_of_openFolder_error ho', hworking name hname]
    | ok opened =>
      rw [ho] at hopen
      obtain ⟨found, hfound⟩ := hopen.2 ⟨opened, ho'⟩
      cases hfound
  | ok opened =>
    obtain ⟨mode, es⟩ := opened
    obtain ⟨⟨mode', es'⟩, ho'⟩ := hopen.1 ⟨_, ho⟩
    have same {other : FileName} (hother : p.find? other = q.find? other) :
        es.find? other = es'.find? other := by
      rw [← find?_of_openFolder ho, ← find?_of_openFolder ho', hother]
    have hplain : ¬ IsLink (es.find? (draftName id)) := by
      rw [← find?_of_openFolder ho]
      exact hp.linkFree _
    rw [put_snd, put_snd, find?_save_of_openFolder ho, find?_save_of_openFolder ho']
    exact (save_congr mode mode' disk hplain (same hrecord) (same (hworking _ (.inl rfl))) data).2
      name (same (hworking name hname))

theorem Agree.find?_take (h : Agree id p q) (hid : ContainerId.isValid id = true) (pid : Nat)
    (disk : Disk) {name : FileName} (hname : IsWorkingName id name) :
    (take pid p id disk).2.find? name = (take pid q id disk).2.find? name := by
  have hrecord := h.find?_recordName hid
  obtain ⟨records, records', hp, hq, hsame, hworking, -⟩ := h
  have hclaimed : (claim pid p id disk).isOk = true ↔ (claim pid q id disk).isOk = true := by
    rw [hp.isOk_claim_iff, hq.isOk_claim_iff, hsame]
  cases hclaim : claim pid p id disk with
  | error e =>
    cases hclaim' : claim pid q id disk with
    | error e' =>
      rw [(TakeStep.unclaimed hclaim).take_eq, (TakeStep.unclaimed hclaim').take_eq,
        hworking name hname]
    | ok left =>
      rw [hclaim, hclaim'] at hclaimed
      cases hclaimed.2 rfl
  | ok left =>
    cases hclaim' : claim pid q id disk with
    | error e' =>
      rw [hclaim, hclaim'] at hclaimed
      cases hclaimed.1 rfl
    | ok left' =>
      obtain ⟨-, mode, es, node, rfl, -⟩ := exists_movedNode_of_claim hclaim
      obtain ⟨-, mode', es', node', rfl, -⟩ := exists_movedNode_of_claim hclaim'
      exact (take_congr mode mode' disk (hp.linkFree _) hrecord
        (hworking _ (.inr ⟨pid, rfl⟩))).2.2 name (hworking name hname)

/-- An operation on the id itself, at both places. -/
theorem Agree.perform_both {op : Operation} (h : Agree op.id p q) :
    Agree op.id (perform p op).2 (perform q op).2 := by
  have hfound {name : FileName} (hname : IsWorkingName op.id name) :
      (perform p op).2.find? name = (perform q op).2.find? name := by
    by_cases hid : ContainerId.isValid op.id = true
    · cases op with
      | put id data disk => exact h.find?_put hid data disk hname
      | take pid id disk => exact h.find?_take hid pid disk hname
    · obtain ⟨x, hx⟩ := exists_perform_eq_of_not_isValid hid
      obtain ⟨-, -, -, -, -, hworking, -⟩ := h
      rw [hx, hx]
      exact hworking name hname
  obtain ⟨records, records', hp, hq, hsame, -, hopen⟩ := id h
  refine ⟨_, _, represents_perform hp op, represents_perform hq op, h.after_eq rfl hp hq hsame,
    fun name => hfound, ?_⟩
  rw [openable_perform_iff, openable_perform_iff, hopen]

theorem Agree.put_both (h : Agree id p q) (data : Bytes) (disk : Disk) :
    Agree id (put p id data disk).2 (put q id data disk).2 :=
  perform_both (show Agree (Operation.put id data disk).id p q from h)

theorem Agree.take_both (h : Agree id p q) (pid : Nat) (disk : Disk) :
    Agree id (take pid p id disk).2 (take pid q id disk).2 :=
  perform_both (show Agree (Operation.take pid id disk).id p q from h)

end

theorem agree_vacant (reason : Option Errno) (id : String) :
    Agree id (vacant reason) (vacant reason) :=
  ⟨_, _, represents_vacant reason, represents_vacant reason, rfl, fun _ _ => rfl, Iff.rfl⟩

/-- Places that agree on every id have the same nodes. -/
theorem find?_eq_of_agree {p q : Place} (h : ∀ id, Agree id p q) (name : FileName) :
    p.find? name = q.find? name := by
  by_cases hrecord : ∃ id, ContainerId.isValid id = true ∧ name = recordName id
  · obtain ⟨id, hid, rfl⟩ := hrecord
    exact (h id).find?_recordName hid
  by_cases hworking : ∃ id, IsWorkingName id name
  · obtain ⟨id, hid⟩ := hworking
    obtain ⟨-, -, -, -, -, hsame, -⟩ := h id
    exact hsame name hid
  -- nothing else is there
  have hnone {place : Place} {records : Records} (hplace : Represents place records) :
      place.find? name = none := by
    rw [Option.eq_none_iff_forall_ne_some]
    intro node hfound
    cases hname : isHidden name with
    | false =>
      obtain ⟨id, data, hkept, heq, -⟩ := (hplace.found hname).1 hfound
      exact hrecord ⟨id, hplace.valid hkept, heq⟩
    | true =>
      obtain ⟨id, data, hid, -⟩ := hplace.working hname hfound
      exact hworking ⟨id, hid⟩
  obtain ⟨records, records', hp, hq, -⟩ := h ""
  rw [hnone hp, hnone hq]

end NetDelegate.Scratch
