/-
  NetDelegate/Proofs/Scratch/Folder.lean
  ======================================
  **What saving and taking a record do to a folder,** whatever is in it and whatever faults the
  disk has.  `saveStep` and `takeStep` list once how the two operations can end, and every later
  proof goes by these cases.  Where the name of the draft is a link, saving writes into what it
  leads to, so `saveStep` is about folders in which it is none.
-/
import NetDelegate.Proofs.FileSystem.Folder
import NetDelegate.Proofs.Scratch.Disk
import NetDelegate.Proofs.Scratch.Name
import NetDelegate.Scratch

namespace NetDelegate.Scratch

/-! ### Saving -/

/-- How saving a record ends, up to the folder being brought to the disk, and what it leaves
    behind. -/
inductive SaveStep (place : Place) (id : String) (data : Bytes) (disk : Disk) :
    Except Failure Unit × Place → Prop where
  /-- The text is no id. -/
  | refused {e : Failure} (hid : ContainerId.check id = .error e) :
      SaveStep place id data disk (.error e, place)
  /-- There is no folder, and none can be made. -/
  | unopened {e : Errno} (hid : ContainerId.isValid id = true)
      (ho : makeFolder disk place = .error e) :
      SaveStep place id data disk (failWith (systemError e), place)
  /-- The draft cannot be opened. -/
  | unwritten {mode : Nat} {es : Entries} {e : Errno} (hid : ContainerId.isValid id = true)
      (ho : makeFolder disk place = .ok (mode, es))
      (hw : writtenMode disk (draftName id) (es.find? (draftName id)) = .error e) :
      SaveStep place id data disk (failWith (systemError e), .present (.folder mode es))
  /-- A part of the draft is there. -/
  | broken {mode draftMode : Nat} {es : Entries} {e : Errno} (hid : ContainerId.isValid id = true)
      (ho : makeFolder disk place = .ok (mode, es))
      (hw : writtenMode disk (draftName id) (es.find? (draftName id)) = .ok draftMode)
      (hd : disk.written = .error e) :
      SaveStep place id data disk (failWith (systemError e),
        .present (.folder mode (es.put (draftName id) (.file (disk.arrived data) draftMode))))
  /-- The draft is there as a whole, but cannot take the place of the record. -/
  | unmoved {mode draftMode : Nat} {es : Entries} {e : Errno}
      (hid : ContainerId.isValid id = true) (ho : makeFolder disk place = .ok (mode, es))
      (hw : writtenMode disk (draftName id) (es.find? (draftName id)) = .ok draftMode)
      (hd : disk.written = .ok ())
      (hm : movedNode disk (draftName id) (recordName id) (some (.file data draftMode))
        (es.find? (recordName id)) = .error e) :
      SaveStep place id data disk (failWith (systemError e),
        .present (.folder mode (es.put (draftName id) (.file data draftMode))))
  /-- The record is there, and the draft is not any more. -/
  | saved {mode draftMode : Nat} {es : Entries}
      (hid : ContainerId.isValid id = true) (ho : makeFolder disk place = .ok (mode, es))
      (hw : writtenMode disk (draftName id) (es.find? (draftName id)) = .ok draftMode)
      (hd : disk.written = .ok ())
      (hm : movedNode disk (draftName id) (recordName id) (some (.file data draftMode))
        (es.find? (recordName id)) = .ok (.file data draftMode)) :
      SaveStep place id data disk (.ok (),
        .present (.folder mode (moved es (draftName id) (recordName id) (.file data draftMode))))

theorem find?_of_openFolder {place : Place} {mode : Nat} {es : Entries}
    (h : openFolder place = .ok (mode, es)) (name : FileName) :
    place.find? name = es.find? name := by
  match place with
  | .blocked e => cases h
  | .missing =>
    cases h
    rfl
  | .present (.file _ _) => cases h
  | .present (.link _) => cases h
  | .present (.folder _ _) =>
    cases h
    rfl

theorem makeFolder_eq_ok_iff {disk : Disk} {place : Place} {opened : Nat × Entries} :
    makeFolder disk place = .ok opened ↔ disk.making = none ∧ openFolder place = .ok opened := by
  unfold makeFolder
  cases disk.making with
  | none => exact (and_iff_right rfl).symm
  | some fault =>
    refine iff_of_false (fun h => ?_) fun h => ?_
    · cases h
    · cases h.1

theorem find?_of_makeFolder {disk : Disk} {place : Place} {mode : Nat} {es : Entries}
    (h : makeFolder disk place = .ok (mode, es)) (name : FileName) :
    place.find? name = es.find? name :=
  find?_of_openFolder (makeFolder_eq_ok_iff.1 h).2 name

section
variable {place : Place} {id : String} {data : Bytes} {disk : Disk}

theorem save_of_check_error {e : Failure} (hid : ContainerId.check id = .error e) :
    save place id data disk = (.error e, place) := by
  simp only [save, hid]

theorem put_of_check_error {e : Failure} (hid : ContainerId.check id = .error e) :
    put place id data disk = (.error e, place) := by
  simp only [put, save_of_check_error hid]

/-- The cases leave no choice. -/
theorem SaveStep.save_eq {r : Except Failure Unit × Place}
    (hplain : ¬ IsLink (place.find? (draftName id))) (h : SaveStep place id data disk r) :
    save place id data disk = r := by
  cases h with
  | refused hid => exact save_of_check_error hid
  | unopened hid ho => simp only [save, ContainerId.check_eq_ok_iff.2 hid, ho]
  | unwritten hid ho hw =>
    rw [find?_of_makeFolder ho] at hplain
    simp only [save, ContainerId.check_eq_ok_iff.2 hid, ho, write_eq hplain, hw]
  | broken hid ho hw hd =>
    rw [find?_of_makeFolder ho] at hplain
    simp only [save, ContainerId.check_eq_ok_iff.2 hid, ho, write_eq hplain, hw, hd]
  | unmoved hid ho hw hd hm =>
    rw [find?_of_makeFolder ho] at hplain
    have hne := (recordName_ne_draftName hid id).symm
    simp only [save, ContainerId.check_eq_ok_iff.2 hid, ho, write_eq hplain, hw, hd,
      Disk.arrived_of_written hd, move_eq, Entries.find?_put, if_true, if_neg hne, hm, Except.map]
  | saved hid ho hw hd hm =>
    rw [find?_of_makeFolder ho] at hplain
    have hne := (recordName_ne_draftName hid id).symm
    simp only [save, ContainerId.check_eq_ok_iff.2 hid, ho, write_eq hplain, hw, hd,
      Disk.arrived_of_written hd, move_eq, Entries.find?_put, if_true, if_neg hne, hm, Except.map,
      moved, Entries.remove_put]

theorem saveStep (hplain : ¬ IsLink (place.find? (draftName id))) (data : Bytes) (disk : Disk) :
    SaveStep place id data disk (save place id data disk) := by
  have found {r : Except Failure Unit × Place} (h : SaveStep place id data disk r) :
      SaveStep place id data disk (save place id data disk) := (h.save_eq hplain).symm ▸ h
  cases hid : ContainerId.check id with
  | error e => exact found (.refused hid)
  | ok u =>
    have hvalid := ContainerId.check_eq_ok_iff.1 hid
    cases ho : makeFolder disk place with
    | error e => exact found (.unopened hvalid ho)
    | ok opened =>
      obtain ⟨mode, es⟩ := opened
      cases hw : writtenMode disk (draftName id) (es.find? (draftName id)) with
      | error e => exact found (.unwritten hvalid ho hw)
      | ok draftMode =>
        cases hd : disk.written with
        | error e => exact found (.broken hvalid ho hw hd)
        | ok u =>
          cases hm : movedNode disk (draftName id) (recordName id) (some (.file data draftMode))
              (es.find? (recordName id)) with
          | error e => exact found (.unmoved hvalid ho hw hd hm)
          | ok node =>
            obtain rfl := Option.some.inj (eq_of_movedNode_eq_ok hm)
            exact found (.saved hvalid ho hw hd hm)

/-- What is done where a record is saved, also through links. -/
theorem exists_of_save_eq_ok (h : (save place id data disk).1 = .ok ()) :
    ∃ mode es written node, makeFolder disk place = .ok (mode, es) ∧
      write disk es (draftName id) data = (.ok (), written) ∧
      movedNode disk (draftName id) (recordName id) (written.find? (draftName id))
        (written.find? (recordName id)) = .ok node ∧
      (save place id data disk).2 =
        .present (.folder mode (moved written (draftName id) (recordName id) node)) := by
  cases hid : ContainerId.check id with
  | error e =>
    rw [save_of_check_error hid] at h
    cases h
  | ok u =>
    cases ho : makeFolder disk place with
    | error e =>
      simp only [save, hid, ho] at h
      cases h
    | ok opened =>
      obtain ⟨mode, es⟩ := opened
      rcases hw : write disk es (draftName id) data with ⟨e | u, written⟩
      · simp only [save, hid, ho, hw] at h
        cases h
      · cases hm : move disk written (draftName id) (recordName id) with
        | error e =>
          simp only [save, hid, ho, hw, hm] at h
          cases h
        | ok left =>
          obtain ⟨node, hnode, rfl⟩ := move_eq_ok_iff.1 hm
          refine ⟨mode, es, written, node, rfl, hw, hnode, ?_⟩
          simp only [save, hid, ho, hw, hm]

/-- Bringing the folder to the disk changes nothing in it. -/
theorem put_snd : (put place id data disk).2 = (save place id data disk).2 := by
  rcases hsave : save place id data disk with ⟨e | u, after⟩
  · simp only [put, hsave]
  · simp only [put, hsave]
    split <;> rfl

theorem put_eq_ok_iff_save :
    (put place id data disk).1 = .ok () ↔
      (save place id data disk).1 = .ok () ∧ disk.syncing = none := by
  rcases hsave : save place id data disk with ⟨e | u, after⟩
  · simp [put, hsave]
  · cases hsyncing : disk.syncing with
    | none => simp [put, hsave, hsyncing]
    | some fault => simp [put, hsave, hsyncing, failWith]

/-- Where `put` fails, saving has failed, or the folder could not be brought to the disk. -/
theorem save_of_put_error {failure : Failure} (h : (put place id data disk).1 = .error failure) :
    (save place id data disk).1 = .error failure ∨
      (save place id data disk).1 = .ok () ∧
        ∃ fault : Fault, disk.syncing = some fault ∧ failure = .error (systemError fault) := by
  rcases hsave : save place id data disk with ⟨e | u, after⟩
  · simp only [put, hsave] at h
    exact .inl h
  · simp only [put, hsave] at h
    split at h
    · next fault hsyncing => exact .inr ⟨rfl, fault, hsyncing, (Except.error.inj h).symm⟩
    · cases h

end

/-! ### Taking -/

section
variable {pid : Nat} {place : Place} {id : String} {disk : Disk}

theorem claim_of_check_error {e : Failure} (hid : ContainerId.check id = .error e) :
    claim pid place id disk = .error e := by
  simp only [claim, hid]

theorem take_of_check_error {e : Failure} (hid : ContainerId.check id = .error e) :
    take pid place id disk = (.error e, place) := by
  simp only [take, claim_of_check_error hid]

/-- A record is claimed where there is a folder in which it can be renamed. -/
theorem claim_eq_ok_iff {mode : Nat} {es : Entries} {left : Nat × Entries} :
    claim pid (.present (.folder mode es)) id disk = .ok left ↔
      ContainerId.isValid id = true ∧ ∃ node,
        movedNode disk (recordName id) (claimName id pid) (es.find? (recordName id))
            (es.find? (claimName id pid)) = .ok node ∧
          left = (mode, moved es (recordName id) (claimName id pid) node) := by
  cases hid : ContainerId.check id with
  | error e =>
    rw [claim_of_check_error hid]
    refine iff_of_false (fun h => ?_) fun h => ?_
    · cases h
    · rw [ContainerId.check_eq_ok_iff.2 h.1] at hid
      cases hid
  | ok u =>
    rw [and_iff_right (ContainerId.check_eq_ok_iff.1 hid)]
    simp only [claim, hid, move_eq]
    cases movedNode disk (recordName id) (claimName id pid) (es.find? (recordName id))
      (es.find? (claimName id pid)) with
    | error e => simp [Except.map, failWith]
    | ok node => simp [Except.map, eq_comm]

/-- A record is claimed in a folder, where it is moved to the name of the claim. -/
theorem exists_movedNode_of_claim {left : Nat × Entries} (h : claim pid place id disk = .ok left) :
    ContainerId.isValid id = true ∧ ∃ (mode : Nat) (es : Entries) (node : Node),
      place = .present (.folder mode es) ∧
        movedNode disk (recordName id) (claimName id pid) (es.find? (recordName id))
            (es.find? (claimName id pid)) = .ok node ∧
          left = (mode, moved es (recordName id) (claimName id pid) node) := by
  have hfolder : ∃ mode es, place = .present (.folder mode es) := by
    unfold claim at h
    split at h
    · cases h
    · split at h
      · cases h
      · cases h
      · next mode es => exact ⟨mode, es, rfl⟩
      · cases h
  obtain ⟨mode, es, rfl⟩ := hfolder
  obtain ⟨hid, node, hm, hleft⟩ := claim_eq_ok_iff.1 h
  exact ⟨hid, mode, es, node, rfl, hm, hleft⟩

end

/-- How taking a record ends, and what it leaves behind. -/
inductive TakeStep (pid : Nat) (disk : Disk) :
    Place → String → Except Failure Bytes × Place → Prop where
  /-- The record cannot be claimed. -/
  | unclaimed {place : Place} {id : String} {e : Failure}
      (hclaim : claim pid place id disk = .error e) : TakeStep pid disk place id (.error e, place)
  /-- What was claimed cannot be read. -/
  | unread {mode : Nat} {es : Entries} {id : String} {node : Node} {e : Errno}
      (hid : ContainerId.isValid id = true)
      (hm : movedNode disk (recordName id) (claimName id pid) (es.find? (recordName id))
        (es.find? (claimName id pid)) = .ok node)
      (hr : read disk (moved es (recordName id) (claimName id pid) node) (claimName id pid) =
        .error e) :
      TakeStep pid disk (.present (.folder mode es)) id (failWith (systemError e),
        .present (.folder mode
          (delete disk (moved es (recordName id) (claimName id pid) node) (claimName id pid))))
  /-- What was claimed has been read. -/
  | taken {mode : Nat} {es : Entries} {id : String} {node : Node} {data : Bytes}
      (hid : ContainerId.isValid id = true)
      (hm : movedNode disk (recordName id) (claimName id pid) (es.find? (recordName id))
        (es.find? (claimName id pid)) = .ok node)
      (hr : read disk (moved es (recordName id) (claimName id pid) node) (claimName id pid) =
        .ok data) :
      TakeStep pid disk (.present (.folder mode es)) id (.ok data,
        .present (.folder mode
          (delete disk (moved es (recordName id) (claimName id pid) node) (claimName id pid))))

/-- The cases leave no choice. -/
theorem TakeStep.take_eq {pid : Nat} {disk : Disk} {place : Place} {id : String}
    {r : Except Failure Bytes × Place} (h : TakeStep pid disk place id r) :
    take pid place id disk = r := by
  cases h with
  | unclaimed hclaim => simp only [take, hclaim]
  | unread hid hm hr => simp only [take, claim_eq_ok_iff.2 ⟨hid, _, hm, rfl⟩, hr]
  | taken hid hm hr => simp only [take, claim_eq_ok_iff.2 ⟨hid, _, hm, rfl⟩, hr]

theorem takeStep (pid : Nat) (disk : Disk) (place : Place) (id : String) :
    TakeStep pid disk place id (take pid place id disk) := by
  have found {r : Except Failure Bytes × Place} (h : TakeStep pid disk place id r) :
      TakeStep pid disk place id (take pid place id disk) := h.take_eq.symm ▸ h
  cases hclaim : claim pid place id disk with
  | error e => exact found (.unclaimed hclaim)
  | ok left =>
    obtain ⟨hid, mode, es, node, rfl, hm, rfl⟩ := exists_movedNode_of_claim hclaim
    cases hr : read disk (moved es (recordName id) (claimName id pid) node)
        (claimName id pid) with
    | error e => exact found (.unread hid hm hr)
    | ok data => exact found (.taken hid hm hr)

/-- What has been claimed is read under the name of the claim. -/
theorem read_moved {disk : Disk} {es : Entries} {old new : FileName} {node : Node}
    (h : ¬ IsLink (some node)) :
    read disk (moved es old new node) new = readNode disk new (some node) := by
  have hfound : (moved es old new node).find? new = some node := by
    rw [find?_moved, if_pos rfl]
  rw [← hfound] at h ⊢
  exact read_eq h

end NetDelegate.Scratch
