/-
  NetDelegate/Proofs/Scratch/Privacy.lean
  =======================================
  **Who may read a record.**  A draft that is made anew may be read by its owner alone, but a file
  that stands under the name of the draft is written over and keeps its mode, and the record has the
  mode of its draft.  So a record that was saved is private exactly if nothing else was left under
  the name of its draft (`put_isPrivate_iff`).  The operations of this library leave no such file
  behind (`IsPrivate.history`); other programs may (`put_over_readable_draft`).
-/
import NetDelegate.Proofs.Scratch.History

namespace NetDelegate.Scratch

/-- If there is a file, it has the mode of records. -/
def IsPrivate (node : Option Node) : Prop :=
  ∀ data mode, node = some (.file data mode) → mode = recordMode

theorem isPrivate_none : IsPrivate none := by
  intro data mode h
  cases h

theorem isPrivate_file_iff {data : Bytes} {mode : Nat} :
    IsPrivate (some (.file data mode)) ↔ mode = recordMode := by
  constructor
  · intro h
    exact h data mode rfl
  · intro hmode data' mode' h
    cases h
    exact hmode

/-- Writing makes a private file unless there is a file that is not. -/
theorem writtenMode_eq_recordMode_iff {disk : Disk} {name : FileName} {node : Option Node}
    {mode : Nat} (h : writtenMode disk name node = .ok mode) :
    mode = recordMode ↔ IsPrivate node := by
  unfold writtenMode at h
  split at h
  · cases h
  · split at h
    · cases h
    · cases node with
      | none =>
        cases h
        exact iff_of_true rfl isPrivate_none
      | some there =>
        cases there with
        | file data fileMode =>
          cases h
          exact isPrivate_file_iff.symm
        | folder folderMode es => cases h
        | link target => cases h

/-- Writing under any name, also through links, makes no private file readable for others. -/
theorem IsPrivate.write {es : Entries} {name : FileName} (h : IsPrivate (es.find? name))
    (disk : Disk) (written : FileName) (data : Bytes) :
    IsPrivate ((write disk es written data).2.find? name) := by
  rcases find?_write disk es written name data with
    hsame | ⟨-, arrived, mode, hfile, hmode | ⟨before, hbefore⟩⟩
  · rw [hsame]
    exact h
  · rw [hfile, isPrivate_file_iff]
    exact hmode
  · rw [hfile, isPrivate_file_iff]
    exact h before mode hbefore

/-! ### Drafts -/

section
variable {place : Place} {id : String}

/-- Saving, for any id, leaves no draft, or a private one if there was no other. -/
theorem IsPrivate.put (h : IsPrivate (place.find? (draftName id))) (owner : String) (data : Bytes)
    (disk : Disk) : IsPrivate ((put place owner data disk).2.find? (draftName id)) := by
  rw [put_snd, save]
  split
  · exact h
  · next hcheck =>
    have howner := ContainerId.check_eq_ok_iff.1 hcheck
    split
    · exact h
    · next mode es ho =>
      rw [find?_of_makeFolder ho] at h
      have hwritten := h.write disk (draftName owner) data
      dsimp only
      split
      · next e after hw =>
        rw [hw] at hwritten
        exact hwritten
      · next after hw =>
        rw [hw] at hwritten
        split
        · exact hwritten
        · next moved hm =>
          obtain ⟨node, -, rfl⟩ := move_eq_ok_iff.1 hm
          rw [Place.find?_folder, find?_moved, if_neg (recordName_ne_draftName howner id)]
          split
          · exact isPrivate_none
          · exact hwritten

/-- **No operation makes the draft of an id readable for others.** -/
theorem IsPrivate.perform (h : IsPrivate (place.find? (draftName id))) (op : Operation) :
    IsPrivate ((perform place op).2.find? (draftName id)) := by
  cases op with
  | put owner data disk => exact h.put owner data disk
  | take pid owner disk =>
    rw [Scratch.perform]
    rcases find?_take pid place owner disk (draftName id) with hsame | hnone | ⟨hclaim, -⟩
    · rw [hsame]
      exact h
    · rw [hnone]
      exact isPrivate_none
    · exact absurd hclaim (draftName_ne_claimName id owner pid)

theorem IsPrivate.history (h : IsPrivate (place.find? (draftName id))) (ops : List Operation) :
    IsPrivate ((history place ops).2.find? (draftName id)) := by
  induction ops generalizing place with
  | nil => exact h
  | cons op ops ih => exact ih (h.perform op)

/-- A link under the name of the draft becomes the record. -/
theorem find?_recordName_put_of_link {path data : Bytes} {disk : Disk}
    (hlink : place.find? (draftName id) = some (.link path))
    (hput : (Scratch.put place id data disk).1 = .ok ()) :
    (Scratch.put place id data disk).2.find? (recordName id) = some (.link path) := by
  obtain ⟨mode, es, written, node, ho, hw, hm, hleft⟩ :=
    exists_of_save_eq_ok (put_eq_ok_iff_save.1 hput).1
  rw [find?_of_makeFolder ho] at hlink
  have hstays : written.find? (draftName id) = some (.link path) := by
    have hwritten := find?_write_of_link hlink disk data
    rw [hw] at hwritten
    exact hwritten
  rw [put_snd, hleft, Place.find?_folder, find?_moved, if_pos rfl, ← eq_of_movedNode_eq_ok hm,
    hstays]

end

/-! ### Main result -/

/-- **When a saved record is private.**  Whatever was done before, the record is a file with the
    bytes that were handed in, and its mode is that of records exactly if no file of another mode
    was under the name of its draft.  None is there if none was there at the start.  If a link was
    there, the record is this link. -/
theorem put_isPrivate_iff (start : Place) (before : List Operation) (id : String) (data : Bytes)
    (disk : Disk) (hput : (put (history start before).2 id data disk).1 = .ok ()) :
    let place := (history start before).2
    let record := (put place id data disk).2.find? (recordName id)
    (¬ IsLink (place.find? (draftName id)) →
      ∃ mode, record = some (.file data mode) ∧
        (mode = recordMode ↔ IsPrivate (place.find? (draftName id))) ∧
        (IsPrivate (start.find? (draftName id)) → mode = recordMode)) ∧
    ∀ path, place.find? (draftName id) = some (.link path) → record = some (.link path) := by
  intro place record
  refine ⟨fun hplain => ?_, fun path hlink => find?_recordName_put_of_link hlink hput⟩
  have hsave := (put_eq_ok_iff_save.1 hput).1
  obtain ⟨mode, hmode, hfound⟩ := exists_writtenMode_of_save_ok hplain hsave
  have hiff := writtenMode_eq_recordMode_iff hmode
  have hrecord : record = some (.file data mode) := by
    rw [← hfound, ← put_snd]
  exact ⟨mode, hrecord, hiff, fun hstart => hiff.2 (hstart.history before)⟩

/-- A folder with a record that others may read, and with a draft that they may not. -/
def withPrivateDraft : Place :=
  .present (.folder 0o755
    [(recordName "a", .file (utf8 "old") 0o644), (draftName "a", .file (utf8 "[") recordMode)])

/-- The record that was there does not count, nor does what is done for another id. -/
theorem put_isPrivate_over_record :
    let place := (history withPrivateDraft [.put "b" []]).2
    (put place "a" (utf8 "[]")).1 = .ok () ∧
      (put place "a" (utf8 "[]")).2.find? (recordName "a") =
        some (.file (utf8 "[]") recordMode) := by
  intro place
  have hput : (put place "a" (utf8 "[]")).1 = .ok () := rfl
  have hdraft : IsPrivate (withPrivateDraft.find? (draftName "a")) := isPrivate_file_iff.2 rfl
  have hplain : ¬ IsLink (place.find? (draftName "a")) := not_isLink_file (utf8 "[") recordMode
  obtain ⟨mode, hfound, -, hmode⟩ :=
    (put_isPrivate_iff withPrivateDraft [.put "b" []] "a" (utf8 "[]") {} hput).1 hplain
  rw [hmode hdraft] at hfound
  exact ⟨hput, hfound⟩

/-- A folder in which another program left a draft that others may read. -/
def withReadableDraft : Place :=
  .present (.folder 0o755 [(draftName "a", .file (utf8 "old") 0o644)])

/-- The record that is saved there may be read by others. -/
theorem put_over_readable_draft :
    (put withReadableDraft "a" (utf8 "[]")).1 = .ok () ∧
      (put withReadableDraft "a" (utf8 "[]")).2.find? (recordName "a") =
        some (.file (utf8 "[]") 0o644) ∧
      0o644 ≠ recordMode := by
  refine ⟨rfl, rfl, ?_⟩
  decide

end NetDelegate.Scratch
