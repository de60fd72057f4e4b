/-
  NetDelegate/Proofs/Scratch/Records.lean
  =======================================
  **The scratch folder is a map from ids to bytes.**  Saving sets an id and taking clears it.  An
  operation that fails changes nothing, but for two ways to fail after that: the folder could not
  be brought to the disk when the record was saved, or a record could not be read when it was
  claimed.  `Represents` relates a place to the map that it keeps; it holds of a place without a
  folder and of the empty map, and every operation keeps it, with the map changed if the record was
  replaced or moved away (`represents_perform`).  Between operations there are no working files but
  those that an operation left behind because the disk failed.
-/
import NetDelegate.Proofs.Scratch.Taking

namespace NetDelegate.Scratch

/-! ### The map -/

/-- What is kept for each id. -/
abbrev Records := String → Option Bytes

namespace Records

/-- Nothing is kept. -/
def empty : Records := fun _ => none

/-- Sets what is kept for an id. -/
def set (m : Records) (id : String) (value : Option Bytes) : Records :=
  fun other => if other = id then value else m other

/-- What is kept after an operation. -/
def after (m : Records) : Exchange → Records
  | .put id data true _ => m.set id (some data)
  | .take id true _ => m.set id none
  | _ => m

/-- What is kept after a history that began with nothing. -/
def afterAll (xs : List Exchange) : Records := xs.foldl after empty

theorem set_self (m : Records) (id : String) (value : Option Bytes) : m.set id value id = value :=
  if_pos rfl

theorem set_of_ne (m : Records) {id other : String} (h : other ≠ id) (value : Option Bytes) :
    m.set id value other = m other := if_neg h

end Records

/-- A place without a folder: one can be made there, unless the way to it is blocked. -/
def vacant : Option Errno → Place
  | none => .missing
  | some e => .blocked e

/-! ### What a place keeps -/

/-- A place keeps a map: it holds a file for each binding, and nothing else but working files that
    were left behind. -/
structure Represents (place : Place) (records : Records) : Prop where
  valid : ∀ {id data}, records id = some data → ContainerId.isValid id = true
  found : ∀ {name node}, isHidden name = false → (place.find? name = some node ↔
    ∃ id data, records id = some data ∧ name = recordName id ∧ node = .file data recordMode)
  working : ∀ {name node}, isHidden name = true → place.find? name = some node →
    ∃ id data, IsWorkingName id name ∧ node = .file data recordMode
  distinct : place.entries.names.Nodup

theorem represents_vacant (reason : Option Errno) : Represents (vacant reason) Records.empty := by
  have hentries : (vacant reason).entries = [] := by cases reason <;> rfl
  have hnone (name : FileName) : (vacant reason).find? name = none := by
    rw [Place.find?, hentries]
    rfl
  constructor
  · intro id data h
    cases h
  · intro name node _
    simp [hnone, Records.empty]
  · intro name node _ h
    rw [hnone] at h
    cases h
  · rw [hentries]
    exact List.nodup_nil

section
variable {place : Place} {records : Records}

/-- All that there is are files of the mode of records. -/
theorem Represents.isFile (h : Represents place records) {name : FileName} {node : Node}
    (hfound : place.find? name = some node) : ∃ data, node = .file data recordMode := by
  cases hname : isHidden name with
  | true =>
    obtain ⟨id, data, -, hnode⟩ := h.working hname hfound
    exact ⟨data, hnode⟩
  | false =>
    obtain ⟨id, data, -, -, hnode⟩ := (h.found hname).1 hfound
    exact ⟨data, hnode⟩

theorem Represents.linkFree (h : Represents place records) : LinkFree place := by
  rintro name ⟨path, hlink⟩
  obtain ⟨data, hnode⟩ := h.isFile hlink
  cases hnode

theorem Represents.not_isFolder (h : Represents place records) (name : FileName) :
    ¬ IsFolder (place.find? name) := by
  rintro ⟨mode, es, hfolder⟩
  obtain ⟨data, hnode⟩ := h.isFile hfolder
  cases hnode

theorem Represents.isWritable (h : Represents place records) (name : FileName) :
    IsWritable (place.find? name) := by
  cases hfound : place.find? name with
  | none => exact .inl rfl
  | some node =>
    obtain ⟨data, rfl⟩ := h.isFile hfound
    exact .inr ⟨data, recordMode, rfl⟩

theorem Represents.find?_recordName (h : Represents place records) {id : String}
    (hid : ContainerId.isValid id = true) :
    place.find? (recordName id) = (records id).map fun data => .file data recordMode := by
  have hvisible := isHidden_recordName hid
  cases hkept : records id with
  | some data => exact (h.found hvisible).2 ⟨id, data, hkept, rfl, rfl⟩
  | none =>
    cases hfound : place.find? (recordName id) with
    | none => rfl
    | some node =>
      obtain ⟨other, data, hother, hname, -⟩ := (h.found hvisible).1 hfound
      rw [recordName_inj.1 hname, hother] at hkept
      cases hkept

/-- A place keeps one map only. -/
theorem Represents.eq_of_represents (h : Represents place records) {records' : Records}
    (h' : Represents place records') : records = records' := by
  funext id
  by_cases hid : ContainerId.isValid id = true
  · have hfound := (h.find?_recordName hid).symm.trans (h'.find?_recordName hid)
    refine Option.map_injective (fun data data' hfile => ?_) hfound
    cases hfile
    rfl
  · have hnone {kept : Records} (hkept : Represents place kept) : kept id = none := by
      rw [Option.eq_none_iff_forall_ne_some]
      exact fun data hdata => hid (hkept.valid hdata)
    rw [hnone h, hnone h']

/-- A draft is always written as a private file. -/
theorem Represents.writtenMode_eq (h : Represents place records) {disk : Disk} {name : FileName}
    {mode : Nat} (hw : writtenMode disk name (place.find? name) = .ok mode) :
    mode = recordMode := by
  unfold writtenMode at hw
  split at hw
  · cases hw
  · split at hw
    · cases hw
    · cases hfound : place.find? name with
      | none =>
        rw [hfound] at hw
        exact (Except.ok.inj hw).symm
      | some node =>
        obtain ⟨data, rfl⟩ := h.isFile hfound
        rw [hfound] at hw
        exact (Except.ok.inj hw).symm

/-- Another place keeps the same map if it shows the same and hides nothing but working files. -/
theorem Represents.keep (h : Represents place records) {after : Place}
    (hvisible : ∀ name, isHidden name = false → after.find? name = place.find? name)
    (hworking : ∀ name node, isHidden name = true → after.find? name = some node →
      ∃ id data, IsWorkingName id name ∧ node = .file data recordMode)
    (hdistinct : after.entries.names.Nodup) : Represents after records where
  valid := h.valid
  found := by
    intro name node hname
    rw [hvisible name hname]
    exact h.found hname
  working := fun {name node} => hworking name node
  distinct := hdistinct

/-- It keeps the map with one change if it shows that. -/
theorem Represents.change (h : Represents place records) {after : Place} {id : String}
    (hid : ContainerId.isValid id = true) {value : Option Bytes}
    (hrecord : after.find? (recordName id) = value.map fun data => .file data recordMode)
    (hvisible : ∀ name, isHidden name = false → name ≠ recordName id →
      after.find? name = place.find? name)
    (hworking : ∀ name node, isHidden name = true → after.find? name = some node →
      ∃ id data, IsWorkingName id name ∧ node = .file data recordMode)
    (hdistinct : after.entries.names.Nodup) : Represents after (records.set id value) where
  valid := by
    intro other data hother
    by_cases heq : other = id
    · rw [heq]
      exact hid
    · rw [Records.set_of_ne records heq] at hother
      exact h.valid hother
  found := by
    intro name node hname
    by_cases heq : name = recordName id
    · subst heq
      rw [hrecord, Option.map_eq_some_iff]
      constructor
      · rintro ⟨data, hdata, rfl⟩
        exact ⟨id, data, (Records.set_self ..).trans hdata, rfl, rfl⟩
      · rintro ⟨other, data, hother, hrecordName, rfl⟩
        rw [← recordName_inj.1 hrecordName, Records.set_self] at hother
        exact ⟨data, hother, rfl⟩
    · rw [hvisible name hname heq, h.found hname]
      -- the name is that of another id, and what is kept for this is as before
      have hsame {other : String} (hother : name = recordName other) :
          records.set id value other = records other :=
        Records.set_of_ne records (fun hid => heq (hother.trans (congrArg recordName hid))) value
      constructor
      · rintro ⟨other, data, hother, rfl, rfl⟩
        exact ⟨other, data, (hsame rfl).trans hother, rfl, rfl⟩
      · rintro ⟨other, data, hother, rfl, rfl⟩
        exact ⟨other, data, (hsame rfl).symm.trans hother, rfl, rfl⟩
  working := fun {name node} => hworking name node
  distinct := hdistinct

/-! ### Operations -/

theorem nodup_names_perform (h : place.entries.names.Nodup) {op : Operation}
    (hplain : op.IsPlain place) : (perform place op).2.entries.names.Nodup := by
  cases op with
  | put id data disk =>
    have opened {mode : Nat} {es : Entries} (ho : makeFolder disk place = .ok (mode, es)) :
        es.names.Nodup := by
      have hopen := (makeFolder_eq_ok_iff.1 ho).2
      match place with
      | .blocked e => cases hopen
      | .missing =>
        cases hopen
        exact List.nodup_nil
      | .present (.file _ _) => cases hopen
      | .present (.link _) => cases hopen
      | .present (.folder _ _) =>
        cases hopen
        exact h
    rw [perform, put_snd]
    generalize hr : save place id data disk = r
    cases hr ▸ saveStep hplain data disk with
    | refused hid => exact h
    | unopened hid ho => exact h
    | unwritten hid ho hw => exact opened ho
    | broken hid ho hw hd => exact Entries.nodup_names_put (opened ho) _ _
    | unmoved hid ho hw hd hm => exact Entries.nodup_names_put (opened ho) _ _
    | saved hid ho hw hd hm =>
      exact Entries.nodup_names_put (Entries.nodup_names_remove (opened ho) _) _ _
  | take pid id disk =>
    have left {es : Entries} (hes : es.names.Nodup) (node : Node) :
        (delete disk (moved es (recordName id) (claimName id pid) node)
          (claimName id pid)).names.Nodup := by
      have hmoved : (moved es (recordName id) (claimName id pid) node).names.Nodup :=
        Entries.nodup_names_put (Entries.nodup_names_remove hes _) _ _
      unfold delete
      split
      · exact hmoved
      · exact hmoved
      · exact Entries.nodup_names_remove hmoved _
    rw [perform]
    generalize hr : take pid place id disk = r
    cases hr ▸ takeStep pid disk place id with
    | unclaimed hclaim => exact h
    | unread hid hm hread => exact left h _
    | taken hid hm hread => exact left h _

/-- What an operation hides are working files. -/
theorem Represents.working_perform (h : Represents place records) {op : Operation}
    (hop : ContainerId.isValid op.id = true) (name : FileName) (node : Node)
    (hname : isHidden name = true) (hfound : (perform place op).2.find? name = some node) :
    ∃ id data, IsWorkingName id name ∧ node = .file data recordMode := by
  cases op with
  | put id data disk =>
    have hrecord : name ≠ recordName id := (recordName_ne_of_isHidden hop hname).symm
    rw [perform] at hfound
    by_cases hdraft : name = draftName id
    · rcases find?_put (h.linkFree _) data disk name with hsame | hnone | ⟨arrived, mode, hfile, hw⟩
      · exact h.working hname (hsame.symm.trans hfound)
      · rw [hnone] at hfound
        cases hfound
      · obtain rfl := h.writtenMode_eq hw
        rw [hfile] at hfound
        exact ⟨id, arrived, .inl hdraft, (Option.some.inj hfound).symm⟩
    · rw [find?_put_of_ne (h.linkFree _) hrecord hdraft] at hfound
      exact h.working hname hfound
  | take pid id disk =>
    rw [perform] at hfound
    rcases find?_take pid place id disk name with hsame | hnone | ⟨hclaim, hmoved⟩
    · exact h.working hname (hsame.symm.trans hfound)
    · rw [hnone] at hfound
      cases hfound
    · obtain ⟨data, rfl⟩ := h.isFile (hmoved.symm.trans hfound)
      exact ⟨id, data, .inr ⟨pid, hclaim⟩, rfl⟩

/-- **An operation changes the map if it replaced the record or moved it away.** -/
theorem represents_perform (h : Represents place records) (op : Operation) :
    Represents (perform place op).2 (records.after (perform place op).1) := by
  cases hcheck : ContainerId.check op.id with
  | error e =>
    cases op with
    | put id data disk =>
      replace hcheck : ContainerId.check id = .error e := hcheck
      rw [perform, put_of_check_error hcheck, save_of_check_error hcheck]
      exact h
    | take pid id disk =>
      have hclaim : claim pid place id disk = .error e := claim_of_check_error hcheck
      rw [perform, (TakeStep.unclaimed hclaim).take_eq, hclaim]
      exact h
  | ok u =>
    have hop := ContainerId.check_eq_ok_iff.1 hcheck
    have hworking := h.working_perform hop
    have hdistinct := nodup_names_perform h.distinct (h.linkFree.draftsArePlain.isPlain op)
    cases op with
    | put id data disk =>
      cases hsave : (save place id data disk).1 with
      | error e =>
        have hafter : records.after (perform place (.put id data disk)).1 = records := by
          rw [perform, hsave]
          rfl
        rw [hafter]
        refine h.keep (fun name hname => ?_) hworking hdistinct
        rw [perform, put_snd]
        exact find?_save_of_error_of_ne (h.linkFree _) hsave (ne_draftName_of_not_isHidden hname id)
      | ok u =>
        have hafter : records.after (perform place (.put id data disk)).1 =
            records.set id (some data) := by
          rw [perform, hsave]
          rfl
        rw [hafter]
        obtain ⟨mode, hw, hrecord⟩ := exists_writtenMode_of_save_ok (h.linkFree _) hsave
        obtain rfl := h.writtenMode_eq hw
        refine h.change hop ?_ (fun name hname hne => ?_) hworking hdistinct
        · rw [perform, put_snd]
          exact hrecord
        · exact find?_put_of_ne (h.linkFree _) hne (ne_draftName_of_not_isHidden hname id)
    | take pid id disk =>
      cases hclaim : claim pid place id disk with
      | error e =>
        rw [perform, (TakeStep.unclaimed hclaim).take_eq, hclaim]
        exact h
      | ok left =>
        have hafter : records.after (perform place (.take pid id disk)).1 =
            records.set id none := by
          rw [perform, hclaim]
          rfl
        rw [hafter]
        refine h.change hop ?_ (fun name hname hne => ?_) hworking hdistinct
        · exact find?_recordName_of_claim hclaim
        · refine find?_take_of_ne hne ?_
          rintro rfl
          rw [isHidden_claimName] at hname
          cases hname

end

/-! ### Answers -/

section
variable {place : Place} {records : Records} {id : String} {data : Bytes} {disk : Disk} {pid : Nat}

/-- A record is saved for every id whose draft has a name that is not too long, if there is a
    folder or one can be made, and the disk has no fault. -/
theorem Represents.save_eq_ok_iff (h : Represents place records) :
    (save place id data disk).1 = .ok () ↔
      ContainerId.isValid id = true ∧ (draftName id).length ≤ FileSystem.maxNameLength ∧
        (∃ opened, openFolder place = .ok opened) ∧ disk.LetsSave := by
  rw [Scratch.save_eq_ok_iff (h.linkFree _)]
  constructor
  · rintro ⟨hid, hlen, hopen, -, -, hdisk⟩
    exact ⟨hid, hlen, hopen, hdisk⟩
  · rintro ⟨hid, hlen, hopen, hdisk⟩
    exact ⟨hid, hlen, hopen, h.isWritable _, h.not_isFolder _, hdisk⟩

theorem Represents.isOk_save_iff (h : Represents place records) :
    (save place id data disk).1.isOk = true ↔
      ContainerId.isValid id = true ∧ (draftName id).length ≤ FileSystem.maxNameLength ∧
        (∃ opened, openFolder place = .ok opened) ∧ disk.LetsSave := by
  rw [← h.save_eq_ok_iff]
  cases (save place id data disk).1 with
  | ok u => exact iff_of_true rfl rfl
  | error e => exact iff_of_false Bool.false_ne_true nofun

theorem Represents.put_eq_ok_iff (h : Represents place records) :
    (put place id data disk).1 = .ok () ↔
      ContainerId.isValid id = true ∧ (draftName id).length ≤ FileSystem.maxNameLength ∧
        (∃ opened, openFolder place = .ok opened) ∧ disk.LetsSave ∧ disk.syncing = none := by
  rw [put_eq_ok_iff_save, h.save_eq_ok_iff]
  simp only [and_assoc]

/-- What is taken was kept, and what is kept can be taken unless the name of the claim is too
    long or the disk has a fault. -/
theorem Represents.take_eq_ok_iff (h : Represents place records) :
    (take pid place id disk).1 = .ok data ↔
      records id = some data ∧ (claimName id pid).length ≤ FileSystem.maxNameLength ∧
        disk.LetsTake := by
  rw [Scratch.take_eq_ok_iff (h.linkFree _)]
  constructor
  · rintro ⟨hid, ⟨mode, hfound⟩, hclaim, -, hdisk⟩
    rw [h.find?_recordName hid] at hfound
    obtain ⟨kept, hkept, hfile⟩ := Option.map_eq_some_iff.1 hfound
    cases hfile
    exact ⟨hkept, hclaim, hdisk⟩
  · rintro ⟨hkept, hclaim, hdisk⟩
    have hid := h.valid hkept
    refine ⟨hid, ⟨recordMode, ?_⟩, hclaim, h.not_isFolder _, hdisk⟩
    rw [h.find?_recordName hid, hkept]
    rfl

/-- What has been claimed was kept. -/
theorem Represents.ne_none_of_claim (h : Represents place records) {left : Nat × Entries}
    (hclaim : claim pid place id disk = .ok left) : records id ≠ none := by
  intro hnone
  obtain ⟨hid, mode, es, node, rfl, hm, -⟩ := exists_movedNode_of_claim hclaim
  have hfound := h.find?_recordName hid
  rw [Place.find?_folder, eq_of_movedNode_eq_ok hm, hnone] at hfound
  cases hfound

/-- What is kept can be claimed unless the name of the claim is too long or the disk fails. -/
theorem Represents.isOk_claim_iff (h : Represents place records) :
    (claim pid place id disk).isOk = true ↔
      records id ≠ none ∧ (claimName id pid).length ≤ FileSystem.maxNameLength ∧
        disk.moving = none := by
  constructor
  · intro hok
    cases hclaim : claim pid place id disk with
    | error e =>
      rw [hclaim] at hok
      cases hok
    | ok left =>
      have hthere := h.ne_none_of_claim hclaim
      obtain ⟨-, mode, es, node, -, hm, -⟩ := exists_movedNode_of_claim hclaim
      exact ⟨hthere, length_le_of_movedNode_eq_ok hm, moving_eq_none hm⟩
  · rintro ⟨hthere, hlen, hmoving⟩
    obtain ⟨data, hkept⟩ := Option.ne_none_iff_exists'.1 hthere
    have hid := h.valid hkept
    have hfound := h.find?_recordName hid
    rw [hkept, Option.map_some] at hfound
    obtain ⟨mode, es, rfl⟩ := Place.exists_folder_of_find? hfound
    rw [Place.find?_folder] at hfound
    have hm := movedNode_claimName hfound hlen (h.not_isFolder _) hmoving
    rw [claim_eq_ok_iff.2 ⟨hid, _, hm, rfl⟩]
    rfl

/-- Where taking fails, the record was not claimed, or the disk failed when it was to be read. -/
theorem Represents.take_of_error (h : Represents place records) {failure : Failure}
    (htake : (take pid place id disk).1 = .error failure) :
    (claim pid place id disk).isOk = false ∨
      (claim pid place id disk).isOk = true ∧ records id ≠ none ∧
        ∃ fault : Fault, disk.reading = some fault ∧ failure = .error (systemError fault) := by
  cases hclaim : claim pid place id disk with
  | error e => exact .inl rfl
  | ok left =>
    have hthere := h.ne_none_of_claim hclaim
    have hid := (exists_movedNode_of_claim hclaim).1
    rcases Scratch.take_of_error htake with hsame | ⟨-, -, -, hfile | hfault⟩
    · have hgone := find?_recordName_of_claim hclaim
      rw [hsame, h.find?_recordName hid, Option.map_eq_none_iff] at hgone
      exact absurd hgone hthere
    · rcases h.isWritable (recordName id) with hnone | hthere'
      · rw [h.find?_recordName hid, Option.map_eq_none_iff] at hnone
        exact absurd hnone hthere
      · exact absurd hthere' hfile
    · exact .inr ⟨rfl, hthere, hfault⟩

end

end NetDelegate.Scratch
