/-
  NetDelegate/Proofs/Scratch/Taking.lean
  ======================================
  **Taking loses nothing but what cannot be read,** whatever is at the place before and whatever
  faults the disk has.  What is taken was the contents of the record, and the record is not left
  (`take_eq_ok_iff`, `find?_recordName_take`).  Where taking fails, nothing is changed, or the
  record was claimed and could not be read: it is not there any more then, because what has been
  claimed is deleted all the same (`take_of_error`).  A file that could be claimed cannot be read
  only if the disk fails.
-/
import NetDelegate.Proofs.Scratch.Saving

namespace NetDelegate.Scratch

section
variable {pid : Nat} {place : Place} {id : String} {data : Bytes} {disk : Disk}

/-! ### Success -/

/-- A file is read unless the disk fails. -/
theorem readNode_file {name : FileName} {mode : Nat}
    (hlen : name.length ≤ FileSystem.maxNameLength) (hreading : disk.reading = none) :
    readNode disk name (some (.file data mode)) = .ok data := by
  simp only [readNode, hreading, Nat.not_lt.2 hlen, if_false]

theorem reading_eq_none_of_read {es : Entries} {name : FileName}
    (h : read disk es name = .ok data) : disk.reading = none := by
  cases hreading : disk.reading with
  | none => rfl
  | some fault =>
    rw [read_of_fault hreading] at h
    cases h

/-- What is read under the name of a claim is the contents of the record, or the record is a
    link. -/
theorem eq_file_of_read_moved {es : Entries} {old new : FileName} {node : Node}
    (h : read disk (moved es old new node) new = .ok data) :
    (∃ mode, node = .file data mode) ∨ ∃ path, node = .link path := by
  have hreading := reading_eq_none_of_read h
  cases node with
  | link path => exact .inr ⟨path, rfl⟩
  | file contents mode =>
    rw [read_moved (not_isLink_file contents mode), readNode, hreading] at h
    dsimp only at h
    split at h
    · cases h
    · cases h
      exact .inl ⟨mode, rfl⟩
  | folder mode inner =>
    have hlink : ¬ IsLink (some (.folder mode inner)) := by
      rintro ⟨path, hpath⟩
      cases hpath
    rw [read_moved hlink, readNode, hreading] at h
    dsimp only at h
    split at h <;> cases h

/-- A file is claimed if the name of the claim is free for it. -/
theorem movedNode_claimName {es : Entries} {fileMode : Nat}
    (hfound : es.find? (recordName id) = some (.file data fileMode))
    (hlen : (claimName id pid).length ≤ FileSystem.maxNameLength)
    (hfolder : ¬ IsFolder (es.find? (claimName id pid))) (hmoving : disk.moving = none) :
    movedNode disk (recordName id) (claimName id pid) (es.find? (recordName id))
      (es.find? (claimName id pid)) = .ok (.file data fileMode) := by
  -- the name of the record is shorter than that of the claim
  have hrecord : (recordName id).length ≤ FileSystem.maxNameLength := by
    rw [length_claimName] at hlen
    omega
  rw [hfound]
  exact movedNode_file_eq_ok_iff.2 ⟨hrecord, hlen, hfolder, hmoving, rfl⟩

/-- **When a record is taken** that is no link. -/
theorem take_eq_ok_iff (hplain : ¬ IsLink (place.find? (recordName id))) :
    (take pid place id disk).1 = .ok data ↔
      ContainerId.isValid id = true ∧
        (∃ mode, place.find? (recordName id) = some (.file data mode)) ∧
          (claimName id pid).length ≤ FileSystem.maxNameLength ∧
            ¬ IsFolder (place.find? (claimName id pid)) ∧ disk.LetsTake := by
  constructor
  · intro hok
    generalize hr : take pid place id disk = r at hok
    cases hr ▸ takeStep pid disk place id with
    | unclaimed hclaim => cases hok
    | unread hid hm hread => cases hok
    | taken hid hm hread =>
      cases hok
      have hfound := eq_of_movedNode_eq_ok hm
      rw [Place.find?_folder, hfound] at hplain
      rcases eq_file_of_read_moved hread with ⟨mode, rfl⟩ | ⟨path, rfl⟩
      · rw [hfound] at hm
        obtain ⟨-, hlen, hfolder, hmoving, -⟩ := movedNode_file_eq_ok_iff.1 hm
        exact ⟨hid, ⟨mode, hfound⟩, hlen, hfolder, hmoving, reading_eq_none_of_read hread⟩
      · exact absurd ⟨path, rfl⟩ hplain
  · rintro ⟨hid, ⟨fileMode, hfound⟩, hlen, hfolder, hdisk⟩
    obtain ⟨mode, es, rfl⟩ := Place.exists_folder_of_find? hfound
    rw [Place.find?_folder] at hfound hfolder
    have hm := movedNode_claimName hfound hlen hfolder hdisk.moving
    have hread : read disk (moved es (recordName id) (claimName id pid) (.file data fileMode))
        (claimName id pid) = .ok data :=
      (read_moved (not_isLink_file data fileMode)).trans (readNode_file hlen hdisk.reading)
    rw [(TakeStep.taken hid hm hread).take_eq]

/-- What was claimed is not under the name of the record any more. -/
theorem find?_recordName_left (hid : ContainerId.isValid id = true) (es : Entries) (node : Node) :
    (delete disk (moved es (recordName id) (claimName id pid) node) (claimName id pid)).find?
      (recordName id) = none := by
  have hclaim := (recordName_ne_claimName hid id pid).symm
  rw [find?_delete_of_ne _ _ hclaim, find?_moved, if_neg hclaim, if_pos rfl]

/-- A record that has been claimed is gone, whether it can be read or not. -/
theorem find?_recordName_of_claim {left : Nat × Entries}
    (h : claim pid place id disk = .ok left) :
    (take pid place id disk).2.find? (recordName id) = none := by
  generalize hr : take pid place id disk = r
  cases hr ▸ takeStep pid disk place id with
  | unclaimed hunclaimed =>
    rw [h] at hunclaimed
    cases hunclaimed
  | unread hid hm hread => exact find?_recordName_left hid _ _
  | taken hid hm hread => exact find?_recordName_left hid _ _

/-- What is taken was there, and is gone then, whatever else the folder holds. -/
theorem find?_recordName_take (h : (take pid place id disk).1 = .ok data) :
    ContainerId.isValid id = true ∧ place.find? (recordName id) ≠ none ∧
      (take pid place id disk).2.find? (recordName id) = none := by
  generalize hr : take pid place id disk = r at h
  cases hr ▸ takeStep pid disk place id with
  | unclaimed hclaim => cases h
  | unread hid hm hread => cases h
  | taken hid hm hread =>
    refine ⟨hid, ?_, find?_recordName_left hid _ _⟩
    rw [Place.find?_folder, eq_of_movedNode_eq_ok hm]
    exact Option.some_ne_none _

/-- What was taken was a file with these contents, or a link that has been read through. -/
theorem find?_of_take_ok (h : (take pid place id disk).1 = .ok data) :
    (∃ mode, place.find? (recordName id) = some (.file data mode)) ∨
      IsLink (place.find? (recordName id)) := by
  generalize hr : take pid place id disk = r at h
  cases hr ▸ takeStep pid disk place id with
  | unclaimed hclaim => cases h
  | unread hid hm hread => cases h
  | taken hid hm hread =>
    cases h
    rw [Place.find?_folder, eq_of_movedNode_eq_ok hm]
    rcases eq_file_of_read_moved hread with ⟨mode, rfl⟩ | ⟨path, rfl⟩
    · exact .inl ⟨mode, rfl⟩
    · exact .inr ⟨path, rfl⟩

/-- A claim that has been read is deleted unless the disk fails. -/
theorem find?_claimName_take (h : (take pid place id disk).1 = .ok data)
    (hdisk : disk.deleting = none) :
    (take pid place id disk).2.find? (claimName id pid) = none := by
  generalize hr : take pid place id disk = r at h
  cases hr ▸ takeStep pid disk place id with
  | unclaimed hclaim => cases h
  | unread hid hm hread => cases h
  | taken hid hm hread =>
    refine find?_delete_eq_none ?_ hdisk
    rw [find?_moved, if_pos rfl]
    rintro ⟨mode, inner, hfolder⟩
    cases hfolder
    rcases eq_file_of_read_moved hread with ⟨mode, hfile⟩ | ⟨path, hlink⟩
    · cases hfile
    · cases hlink

/-! ### Failure -/

theorem claim_of_find?_eq_none (hnone : place.find? (recordName id) = none) (pid : Nat)
    (disk : Disk) : ∃ e, claim pid place id disk = .error e := by
  cases hclaim : claim pid place id disk with
  | error e => exact ⟨e, rfl⟩
  | ok left =>
    obtain ⟨-, mode, es, node, rfl, hm, -⟩ := exists_movedNode_of_claim hclaim
    rw [Place.find?_folder, eq_of_movedNode_eq_ok hm] at hnone
    cases hnone

/-- What is there stays where it is if the name of the claim is too long. -/
theorem take_of_lt (hid : ContainerId.isValid id = true) {node : Node}
    (hfound : place.find? (recordName id) = some node) (hmoving : disk.moving = none)
    (hlen : FileSystem.maxNameLength < (claimName id pid).length) :
    take pid place id disk = (failWith (systemError .nameTooLong), place) := by
  obtain ⟨mode, es, rfl⟩ := Place.exists_folder_of_find? hfound
  have hm : movedNode disk (recordName id) (claimName id pid)
      (Entries.find? es (recordName id)) (Entries.find? es (claimName id pid)) =
        .error .nameTooLong := by
    rw [Place.find?_folder] at hfound
    simp only [movedNode, hmoving, hfound, hlen, if_true]
    split <;> rfl
  have hclaim : claim pid (.present (.folder mode es)) id disk =
      failWith (systemError .nameTooLong) := by
    simp only [claim, ContainerId.check_eq_ok_iff.2 hid, move_eq, hm, Except.map]
    rfl
  exact (TakeStep.unclaimed hclaim).take_eq

/-- Where taking fails, nothing is changed, or what was claimed could not be read: it was no file,
    or the disk failed. -/
theorem take_of_error {failure : Failure} (h : (take pid place id disk).1 = .error failure) :
    (take pid place id disk).2 = place ∨
      (∃ e, failure = .error (systemError e)) ∧ place.find? (recordName id) ≠ none ∧
        (take pid place id disk).2.find? (recordName id) = none ∧
          (¬ IsFile (place.find? (recordName id)) ∨
            ∃ fault : Fault, disk.reading = some fault ∧
              failure = .error (systemError fault)) := by
  generalize hr : take pid place id disk = r at h
  cases hr ▸ takeStep pid disk place id with
  | unclaimed hclaim => exact .inl rfl
  | taken hid hm hread => cases h
  | @unread mode es _ node e hid hm hread =>
    cases h
    rw [Place.find?_folder, Place.find?_folder, eq_of_movedNode_eq_ok hm]
    refine .inr ⟨⟨e, rfl⟩, Option.some_ne_none _, find?_recordName_left hid _ _, ?_⟩
    cases hreading : disk.reading with
    | some fault =>
      rw [read_of_fault hreading] at hread
      cases hread
      exact .inr ⟨fault, rfl, rfl⟩
    | none =>
      refine .inl ?_
      rintro ⟨data, fileMode, hfile⟩
      cases hfile
      rw [read_moved (not_isLink_file data fileMode),
        readNode_file (length_le_of_movedNode_eq_ok hm) hreading] at hread
      cases hread

/-- Nothing is changed where there is said to be no record. -/
theorem take_of_notFound {other : String}
    (h : (take pid place id disk).1 = failWith (.recordNotFound other)) :
    (take pid place id disk).2 = place := by
  rcases take_of_error h with hsame | ⟨⟨e, he⟩, -⟩
  · exact hsame
  · cases he

end

/-! ### Main result -/

/-- A disk from which files cannot be read. -/
def unreadableDisk : Disk where
  reading := some deviceFault

/-- A folder in which a record is a link to the empty device, and another is a link to a file. -/
def withRecordLinks : Place :=
  .present (.folder folderMode
    [(recordName "a", .link emptyDevice), (recordName "b", .link (utf8 "c")),
      (utf8 "c", .file (utf8 "[]") recordMode)])

end NetDelegate.Scratch
