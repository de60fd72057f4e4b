/-
  NetDelegate/Proofs/Scratch/Saving.lean
  ======================================
  **Saving all or nothing,** whatever is at the place before and whatever faults the disk has.
  Where a record is saved, it is a file with the bytes that were handed in
  (`exists_writtenMode_of_save_ok`) and the draft is gone; where it is not, the draft is all that
  can have changed (`find?_save_of_error_of_ne`).  `put` does one thing more: it brings the folder
  to the disk.  If only this fails, the record has been saved all the same, though `put` says that
  it failed (`save_of_put_error`).

  `save_eq_ok_iff` says when a record is saved: the id is one, a folder is there or can be made, the
  draft can be written, no folder stands in the place of the record, and the disk has no fault.
-/
import NetDelegate.Proofs.FileSystem.Path
import NetDelegate.Proofs.Scratch.Frame

namespace NetDelegate.Scratch

/-! ### What is under a name -/

/-- Is there a file under a name? -/
def IsFile (node : Option Node) : Prop := ∃ data mode, node = some (.file data mode)

/-- Can a file be written under a name?  There is one already, or nothing. -/
def IsWritable (node : Option Node) : Prop := node = none ∨ IsFile node

/-- The disk has no fault while a record is saved. -/
structure Disk.LetsSave (disk : Disk) : Prop where
  making : disk.making = none
  opening : disk.opening = none
  writing : disk.writing = none
  moving : disk.moving = none

/-- The disk has no fault while a record is claimed and read. -/
structure Disk.LetsTake (disk : Disk) : Prop where
  moving : disk.moving = none
  reading : disk.reading = none

theorem exists_writtenMode_iff {disk : Disk} {name : FileName} {node : Option Node} :
    (∃ mode, writtenMode disk name node = .ok mode) ↔
      disk.opening = none ∧ name.length ≤ FileSystem.maxNameLength ∧ IsWritable node := by
  cases hopening : disk.opening with
  | some fault => simp [writtenMode, hopening]
  | none =>
    by_cases hlen : name.length ≤ FileSystem.maxNameLength
    · have hlen' := Nat.not_lt.2 hlen
      cases node with
      | none => simp [writtenMode, hopening, IsWritable, hlen, hlen']
      | some there =>
        cases there with
        | file data mode => simp [writtenMode, hopening, IsWritable, IsFile, hlen, hlen']
        | folder mode es => simp [writtenMode, hopening, IsWritable, IsFile, hlen']
        | link target => simp [writtenMode, hopening, IsWritable, IsFile, hlen']
    · simp [writtenMode, hopening, hlen, Nat.not_le.1 hlen]

section
variable {place : Place} {id : String} {data : Bytes} {disk : Disk}

/-! ### Success -/

/-- **When a record is saved,** where no link stands under the name of its draft. -/
theorem save_eq_ok_iff (hplain : ¬ IsLink (place.find? (draftName id))) :
    (save place id data disk).1 = .ok () ↔
      ContainerId.isValid id = true ∧ (draftName id).length ≤ FileSystem.maxNameLength ∧
        (∃ opened, openFolder place = .ok opened) ∧ IsWritable (place.find? (draftName id)) ∧
          ¬ IsFolder (place.find? (recordName id)) ∧ disk.LetsSave := by
  constructor
  · intro hok
    generalize hr : save place id data disk = r at hok
    cases hr ▸ saveStep hplain data disk with
    | refused hid => cases hok
    | unopened hid ho => cases hok
    | unwritten hid ho hw => cases hok
    | broken hid ho hw hd => cases hok
    | unmoved hid ho hw hd hm => cases hok
    | @saved mode draftMode es hid ho hw hd hm =>
      obtain ⟨hopening, hlen, hwritable⟩ := exists_writtenMode_iff.1 ⟨draftMode, hw⟩
      obtain ⟨-, -, hfolder, hmoving, -⟩ := movedNode_file_eq_ok_iff.1 hm
      obtain ⟨hmaking, hopen⟩ := makeFolder_eq_ok_iff.1 ho
      rw [← find?_of_makeFolder ho] at hwritable hfolder
      exact ⟨hid, hlen, ⟨_, hopen⟩, hwritable, hfolder, hmaking, hopening,
        Disk.written_eq_ok_iff.1 hd, hmoving⟩
  · rintro ⟨hid, hlen, ⟨⟨mode, es⟩, hopen⟩, hwritable, hfolder, hdisk⟩
    have ho := makeFolder_eq_ok_iff.2 ⟨hdisk.making, hopen⟩
    rw [find?_of_makeFolder ho] at hwritable hfolder
    obtain ⟨draftMode, hw⟩ := exists_writtenMode_iff.2 ⟨hdisk.opening, hlen, hwritable⟩
    -- the name of the record is shorter than that of the draft
    have hrecord : (recordName id).length ≤ FileSystem.maxNameLength := by
      rw [length_draftName] at hlen
      omega
    have hm : movedNode disk (draftName id) (recordName id) (some (.file data draftMode))
        (es.find? (recordName id)) = .ok (.file data draftMode) :=
      movedNode_file_eq_ok_iff.2 ⟨hlen, hrecord, hfolder, hdisk.moving, rfl⟩
    have hd := Disk.written_eq_ok_iff.2 hdisk.writing
    rw [(SaveStep.saved hid ho hw hd hm).save_eq hplain]

/-- The record has the mode of the draft. -/
theorem exists_writtenMode_of_save_ok (hplain : ¬ IsLink (place.find? (draftName id)))
    (h : (save place id data disk).1 = .ok ()) :
    ∃ mode, writtenMode disk (draftName id) (place.find? (draftName id)) = .ok mode ∧
      (save place id data disk).2.find? (recordName id) = some (.file data mode) := by
  generalize hr : save place id data disk = r at h
  cases hr ▸ saveStep hplain data disk with
  | refused hid => cases h
  | unopened hid ho => cases h
  | unwritten hid ho hw => cases h
  | broken hid ho hw hd => cases h
  | unmoved hid ho hw hd hm => cases h
  | @saved mode draftMode es hid ho hw hd hm =>
    refine ⟨draftMode, ?_, ?_⟩
    · rw [find?_of_makeFolder ho, hw]
    · rw [Place.find?_folder, find?_moved, if_pos rfl]

theorem exists_find?_save_of_ok (hplain : ¬ IsLink (place.find? (draftName id)))
    (h : (save place id data disk).1 = .ok ()) :
    ∃ mode, (save place id data disk).2.find? (recordName id) = some (.file data mode) := by
  obtain ⟨mode, -, hfound⟩ := exists_writtenMode_of_save_ok hplain h
  exact ⟨mode, hfound⟩

theorem exists_find?_put_of_ok (hplain : ¬ IsLink (place.find? (draftName id)))
    (h : (put place id data disk).1 = .ok ()) :
    ∃ mode, (put place id data disk).2.find? (recordName id) = some (.file data mode) := by
  rw [put_snd]
  exact exists_find?_save_of_ok hplain (put_eq_ok_iff_save.1 h).1

theorem find?_draftName_save_of_ok (hplain : ¬ IsLink (place.find? (draftName id)))
    (h : (save place id data disk).1 = .ok ()) :
    (save place id data disk).2.find? (draftName id) = none := by
  generalize hr : save place id data disk = r at h
  cases hr ▸ saveStep hplain data disk with
  | refused hid => cases h
  | unopened hid ho => cases h
  | unwritten hid ho hw => cases h
  | broken hid ho hw hd => cases h
  | unmoved hid ho hw hd hm => cases h
  | saved hid ho hw hd hm =>
    rw [Place.find?_folder, find?_moved, if_neg (recordName_ne_draftName hid id), if_pos rfl]

/-! ### Failure -/

/-- Where saving fails, the draft is all that can have changed. -/
theorem find?_save_of_error_of_ne (hplain : ¬ IsLink (place.find? (draftName id)))
    {failure : Failure} (h : (save place id data disk).1 = .error failure) {name : FileName}
    (hname : name ≠ draftName id) :
    (save place id data disk).2.find? name = place.find? name := by
  generalize hr : save place id data disk = r at h
  cases hr ▸ saveStep hplain data disk with
  | refused hid => rfl
  | unopened hid ho => rfl
  | unwritten hid ho hw => exact (find?_of_makeFolder ho _).symm
  | broken hid ho hw hd =>
    rw [find?_of_makeFolder ho, Place.find?_folder, Entries.find?_put, if_neg hname.symm]
  | unmoved hid ho hw hd hm =>
    rw [find?_of_makeFolder ho, Place.find?_folder, Entries.find?_put, if_neg hname.symm]
  | saved hid ho hw hd hm => cases h

theorem find?_put_of_error_of_ne (hplain : ¬ IsLink (place.find? (draftName id)))
    (hsyncing : disk.syncing = none) {failure : Failure}
    (h : (put place id data disk).1 = .error failure) {name : FileName}
    (hname : name ≠ draftName id) :
    (put place id data disk).2.find? name = place.find? name := by
  rw [put_snd]
  rcases save_of_put_error h with hsave | ⟨-, fault, hfault, -⟩
  · exact find?_save_of_error_of_ne hplain hsave hname
  · rw [hsyncing] at hfault
    cases hfault

theorem exists_errno_of_save_error (hid : ContainerId.isValid id = true) {failure : Failure}
    (h : (save place id data disk).1 = .error failure) : ∃ e, failure = .error (systemError e) := by
  unfold save at h
  rw [ContainerId.check_eq_ok_iff.2 hid] at h
  dsimp only at h
  split at h
  · next e ho => exact ⟨e, (Except.error.inj h).symm⟩
  · split at h
    · next e _ hw => exact ⟨e, (Except.error.inj h).symm⟩
    · split at h
      · next e hm => exact ⟨e, (Except.error.inj h).symm⟩
      · cases h

theorem exists_errno_of_put_error (hid : ContainerId.isValid id = true) {failure : Failure}
    (h : (put place id data disk).1 = .error failure) : ∃ e, failure = .error (systemError e) := by
  rcases save_of_put_error h with hsave | ⟨-, fault, -, hfault⟩
  · exact exists_errno_of_save_error hid hsave
  · exact ⟨fault, hfault⟩

/-- What is in the way of a folder stays there. -/
theorem put_of_openFolder_error {e : Errno} (ho : openFolder place = .error e) :
    (put place id data disk).2 = place := by
  have hmake : ∃ e, makeFolder disk place = .error e := by
    unfold makeFolder
    split
    · exact ⟨_, rfl⟩
    · exact ⟨e, ho⟩
  obtain ⟨e, hmake⟩ := hmake
  rw [put_snd, save]
  split
  · rfl
  · rw [hmake]

end

/-! ### Main result -/

/-- A record has been saved: it is a file with these bytes, all else that is not hidden is as
    before, and the draft is gone. -/
structure Replaced (before after : Place) (id : String) (data : Bytes) : Prop where
  record : ∃ mode, after.find? (recordName id) = some (.file data mode)
  others : ∀ name, isHidden name = false → name ≠ recordName id →
    after.find? name = before.find? name
  draft : after.find? (draftName id) = none

theorem ne_draftName_of_not_isHidden {name : FileName} (h : isHidden name = false) (id : String) :
    name ≠ draftName id := by
  rintro rfl
  rw [isHidden_draftName] at h
  cases h

theorem replaced_of_save_ok {place : Place} {id : String} {data : Bytes} {disk : Disk}
    (hplain : ¬ IsLink (place.find? (draftName id))) (h : (save place id data disk).1 = .ok ()) :
    Replaced place (put place id data disk).2 id data where
  record := by
    rw [put_snd]
    exact exists_find?_save_of_ok hplain h
  others := fun _ hname hrecord =>
    find?_put_of_ne hplain hrecord (ne_draftName_of_not_isHidden hname id)
  draft := by
    rw [put_snd]
    exact find?_draftName_save_of_ok hplain h

/-- A folder with the records of two containers, and with a draft that was left behind. -/
def withRecords : Place :=
  .present (.folder folderMode
    [(recordName "a", .file (utf8 "old") recordMode),
      (recordName "b", .file (utf8 "[]") recordMode),
      (draftName "a", .file (utf8 "[") recordMode)])

/-- A disk that is full after three bytes. -/
def fullDisk : Disk where
  writing := some (3, ⟨.noSpace, by decide⟩)

/-- A folder that is made at a path which goes up again holds more than the record: the folder
    that was made on the way there. -/
theorem exists_place_put_above :
    let top : Node := .folder folderMode []
    let path := utf8 "s/a/.."
    FileSystem.place top path = .missing ∧
      ∃ made, put .missing "c1" (utf8 "x") = (.ok (), .present made) ∧
        (FileSystem.place (FileSystem.put folderMode top path made) path).find? (recordName "a") =
          some (.folder folderMode []) := by
  intro top path
  obtain ⟨hmissing, hfound⟩ := FileSystem.place_put_above folderMode
    [(recordName "c1", .file (utf8 "x") recordMode)] rfl
  have hput : put .missing "c1" (utf8 "x") = (.ok (),
      .present (.folder folderMode [(recordName "c1", .file (utf8 "x") recordMode)])) := rfl
  refine ⟨hmissing, _, hput, ?_⟩
  rw [hfound]
  rfl

/-- The device of the disk fails. -/
def deviceFault : Fault := ⟨.device, by decide⟩

/-- A disk to which files can be brought, but no folder. -/
def unsyncedDisk : Disk where
  syncing := some deviceFault

/-- A folder in which a link stands under the name of a draft. -/
def withDraftLink : Place :=
  .present (.folder folderMode
    [(draftName "a", .link (recordName "b")), (recordName "b", .file (utf8 "[]") recordMode)])

end NetDelegate.Scratch
