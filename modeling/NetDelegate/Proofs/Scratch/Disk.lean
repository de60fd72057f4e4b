/-
  NetDelegate/Proofs/Scratch/Disk.lean
  ====================================
  **What the steps on a folder depend on,** and what they change.  Under names that are no links a
  step sees nothing but the nodes under the names that it is given (`write_eq`, `move_eq`,
  `read_eq`).  A link that is written through stays a link (`find?_write_of_link`), and what it
  leads to is none (`not_isLink_of_leadsTo`).
-/
import NetDelegate.Scratch.Disk

namespace NetDelegate.Scratch

/-! ### What is under a name -/

/-- Is there a folder under a name? -/
def IsFolder (node : Option Node) : Prop := ∃ mode es, node = some (.folder mode es)

/-- Is there a link under a name? -/
def IsLink (node : Option Node) : Prop := ∃ path, node = some (.link path)

theorem not_isLink_none : ¬ IsLink none := by
  rintro ⟨path, h⟩
  cases h

theorem not_isLink_file (data : Bytes) (mode : Nat) : ¬ IsLink (some (.file data mode)) := by
  rintro ⟨path, h⟩
  cases h

/-! ### Following links -/

section
variable {disk : Disk} {es : Entries} {name : FileName}

theorem leadsTo_of_lt (h : FileSystem.maxNameLength < name.length) (links : Nat) :
    leadsTo es links name = .error .nameTooLong := by
  unfold leadsTo
  simp only [lookUp, h, if_true]

theorem leadsTo_eq (h : ¬ IsLink (es.find? name)) (links : Nat) :
    leadsTo es links name =
      if FileSystem.maxNameLength < name.length then .error .nameTooLong
      else .ok (.inside name) := by
  by_cases hlen : FileSystem.maxNameLength < name.length
  · rw [leadsTo_of_lt hlen, if_pos hlen]
  · unfold leadsTo
    simp only [lookUp, hlen, if_false]
    split
    · next hfails => cases hfails
    · next path hpath => exact absurd ⟨path, Except.ok.inj hpath⟩ h
    · rfl

theorem leadsTo_link_zero {path : Bytes} (h : es.find? name = some (.link path))
    (hlen : ¬ FileSystem.maxNameLength < name.length) :
    leadsTo es 0 name = .error .tooManyLinks := by
  unfold leadsTo
  simp only [lookUp, hlen, if_false, h]

theorem leadsTo_link_succ {path : Bytes} (h : es.find? name = some (.link path))
    (hlen : ¬ FileSystem.maxNameLength < name.length) (links : Nat) :
    leadsTo es (links + 1) name =
      if staysInside path then leadsTo es links path else .ok (.outside path) := by
  rw [leadsTo]
  simp only [lookUp, hlen, if_false, h]

/-- Links are followed to their end. -/
theorem not_isLink_of_leadsTo {links : Nat} {target : FileName}
    (h : leadsTo es links name = .ok (.inside target)) : ¬ IsLink (es.find? target) := by
  -- along the links that may be followed
  induction links generalizing name with
  | zero =>
    by_cases hlen : FileSystem.maxNameLength < name.length
    · rw [leadsTo_of_lt hlen] at h
      cases h
    · by_cases hlink : IsLink (es.find? name)
      · obtain ⟨path, hpath⟩ := hlink
        rw [leadsTo_link_zero hpath hlen] at h
        cases h
      · rw [leadsTo_eq hlink, if_neg hlen] at h
        cases h
        exact hlink
  | succ links ih =>
    by_cases hlen : FileSystem.maxNameLength < name.length
    · rw [leadsTo_of_lt hlen] at h
      cases h
    · by_cases hlink : IsLink (es.find? name)
      · obtain ⟨path, hpath⟩ := hlink
        rw [leadsTo_link_succ hpath hlen] at h
        split at h
        · exact ih h
        · cases h
      · rw [leadsTo_eq hlink, if_neg hlen] at h
        cases h
        exact hlink

/-! ### Writing -/

/-- The mode of a file that is opened to write it, given what was under its name. -/
def writtenMode (disk : Disk) (name : FileName) (node : Option Node) : Except Errno Nat :=
  match disk.opening with
  | some fault => .error fault
  | none =>
    if FileSystem.maxNameLength < name.length then .error .nameTooLong
    else match node with
      | none => .ok recordMode
      | some (.file _ mode) => .ok mode
      | some (.folder ..) => .error .isDirectory
      | some (.link _) => .error .tooManyLinks

theorem write_eq (h : ¬ IsLink (es.find? name)) (data : Bytes) :
    write disk es name data =
      match writtenMode disk name (es.find? name) with
      | .error e => (.error e, es)
      | .ok mode => (disk.written, es.put name (.file (disk.arrived data) mode)) := by
  unfold write writtenMode
  cases disk.opening with
  | some fault => rfl
  | none =>
    simp only [leadsTo_eq h]
    by_cases hlen : FileSystem.maxNameLength < name.length
    · simp only [hlen, if_true]
    · simp only [hlen, if_false]
      cases hnode : es.find? name with
      | none => rfl
      | some node =>
        cases node with
        | file data mode => rfl
        | folder mode es => rfl
        | link path => exact absurd ⟨path, hnode⟩ h

/-- What is under a name after something has been written: what was there, or a file.  This has
    the mode of the file that was there, or the mode of files that are made. -/
theorem find?_write (disk : Disk) (es : Entries) (name other : FileName) (data : Bytes) :
    (write disk es name data).2.find? other = es.find? other ∨
      ¬ IsLink (es.find? other) ∧ ∃ arrived mode,
        (write disk es name data).2.find? other = some (.file arrived mode) ∧
          (mode = recordMode ∨ ∃ before, es.find? other = some (.file before mode)) := by
  unfold write
  cases disk.opening with
  | some fault => exact .inl rfl
  | none =>
    dsimp only
    split
    · exact .inl rfl
    · exact .inl rfl
    · next target htarget =>
      have hlink := not_isLink_of_leadsTo htarget
      split
      · exact .inl rfl
      · next before mode hbefore =>
        rw [Entries.find?_put]
        split
        · next heq =>
          subst heq
          exact .inr ⟨hlink, _, mode, rfl, .inr ⟨before, hbefore⟩⟩
        · exact .inl rfl
      · rw [Entries.find?_put]
        split
        · next heq =>
          subst heq
          exact .inr ⟨hlink, _, recordMode, rfl, .inl rfl⟩
        · exact .inl rfl

/-- A link that is written through stays what it is. -/
theorem find?_write_of_link {path : Bytes} (h : es.find? name = some (.link path)) (disk : Disk)
    (data : Bytes) :
    (write disk es name data).2.find? name = some (.link path) := by
  rcases find?_write disk es name name data with hsame | ⟨hlink, -⟩
  · rw [hsame, h]
  · exact absurd ⟨path, h⟩ hlink

theorem Disk.written_eq_ok_iff : disk.written = .ok () ↔ disk.writing = none := by
  unfold Disk.written
  cases disk.writing with
  | none => exact iff_of_true rfl rfl
  | some broken =>
    refine iff_of_false ?_ (Option.some_ne_none _)
    rintro ⟨⟩

theorem Disk.arrived_of_written (h : disk.written = .ok ()) (data : Bytes) :
    disk.arrived data = data := by
  rw [Disk.written_eq_ok_iff] at h
  rw [Disk.arrived, h]

/-! ### Renaming -/

/-- A folder with a node that has been renamed. -/
def moved (es : Entries) (old new : FileName) (node : Node) : Entries :=
  (es.remove old).put new node

theorem find?_moved (es : Entries) (old new other : FileName) (node : Node) :
    (moved es old new node).find? other =
      if new = other then some node else if old = other then none else es.find? other := by
  rw [moved, Entries.find?_put, Entries.find?_remove]

/-- The node that is renamed, given what is under the old and the new name. -/
def movedNode (disk : Disk) (old new : FileName) (before after : Option Node) :
    Except Errno Node :=
  match disk.moving with
  | some fault => .error fault
  | none =>
    if FileSystem.maxNameLength < old.length then .error .nameTooLong
    else match before with
      | none => .error .noEntry
      | some node =>
        if FileSystem.maxNameLength < new.length then .error .nameTooLong
        else match node, after with
          | _, none => .ok node
          | .folder .., some (.folder _ []) => .ok node
          | .folder .., some (.folder _ (_ :: _)) => .error .directoryNotEmpty
          | .folder .., some _ => .error .notDirectory
          | _, some (.folder ..) => .error .isDirectory
          | _, some _ => .ok node

theorem move_eq (disk : Disk) (es : Entries) (old new : FileName) :
    move disk es old new =
      (movedNode disk old new (es.find? old) (es.find? new)).map (moved es old new) := by
  unfold move movedNode
  cases disk.moving with
  | some fault => rfl
  | none =>
    simp only [rename, lookUp]
    by_cases hold : FileSystem.maxNameLength < old.length
    · simp only [hold, if_true]
      rfl
    · simp only [hold, if_false]
      cases es.find? old with
      | none => rfl
      | some node =>
        by_cases hnew : FileSystem.maxNameLength < new.length
        · simp only [hnew, if_true]
          rfl
        · simp only [hnew, if_false]
          cases es.find? new with
          | none => cases node <;> rfl
          | some there =>
            cases there with
            | file _ _ => cases node <;> rfl
            | folder _ inner => cases inner <;> cases node <;> rfl
            | link _ => cases node <;> rfl

theorem move_eq_ok_iff {old new : FileName} {left : Entries} :
    move disk es old new = .ok left ↔
      ∃ node, movedNode disk old new (es.find? old) (es.find? new) = .ok node ∧
        left = moved es old new node := by
  rw [move_eq]
  cases movedNode disk old new (es.find? old) (es.find? new) with
  | error e => simp [Except.map]
  | ok node => simp [Except.map, eq_comm]

variable {old new : FileName} {before after : Option Node} {node : Node}

theorem moving_eq_none (h : movedNode disk old new before after = .ok node) :
    disk.moving = none := by
  unfold movedNode at h
  split at h
  · cases h
  · assumption

/-- A file is moved to any name that is not too long and has no folder under it. -/
theorem movedNode_file_eq_ok_iff {data : Bytes} {mode : Nat} :
    movedNode disk old new (some (.file data mode)) after = .ok node ↔
      old.length ≤ FileSystem.maxNameLength ∧ new.length ≤ FileSystem.maxNameLength ∧
        ¬ IsFolder after ∧ disk.moving = none ∧ node = .file data mode := by
  cases hmoving : disk.moving with
  | some fault => simp [movedNode, hmoving]
  | none =>
    by_cases hold : old.length ≤ FileSystem.maxNameLength
    · by_cases hnew : new.length ≤ FileSystem.maxNameLength
      · have hold' := Nat.not_lt.2 hold
        have hnew' := Nat.not_lt.2 hnew
        cases after with
        | none => simp [movedNode, hmoving, IsFolder, hold, hnew, hold', hnew', eq_comm]
        | some there =>
          cases there with
          | file _ _ => simp [movedNode, hmoving, IsFolder, hold, hnew, hold', hnew', eq_comm]
          | folder _ _ => simp [movedNode, hmoving, IsFolder, hold', hnew']
          | link _ => simp [movedNode, hmoving, IsFolder, hold, hnew, hold', hnew', eq_comm]
      · simp [movedNode, hmoving, Nat.not_lt.2 hold, hnew, Nat.not_le.1 hnew]
    · simp [movedNode, hmoving, hold, Nat.not_le.1 hold]

/-- A node arrives as it was. -/
theorem eq_of_movedNode_eq_ok (h : movedNode disk old new before after = .ok node) :
    before = some node := by
  simp only [movedNode, moving_eq_none h] at h
  split at h
  · cases h
  · split at h
    · cases h
    · next found =>
      split at h
      · cases h
      · split at h
        all_goals first
          | exact congrArg some (Except.ok.inj h)
          | cases h

theorem length_le_of_movedNode_eq_ok (h : movedNode disk old new before after = .ok node) :
    new.length ≤ FileSystem.maxNameLength := by
  refine Nat.not_lt.1 fun hnew => ?_
  simp only [movedNode, moving_eq_none h, hnew, if_true] at h
  split at h
  · cases h
  · split at h <;> cases h

/-! ### Reading and deleting -/

/-- The contents of a file, given what is under its name. -/
def readNode (disk : Disk) (name : FileName) (node : Option Node) : Except Errno Bytes :=
  match disk.reading with
  | some fault => .error fault
  | none =>
    if FileSystem.maxNameLength < name.length then .error .nameTooLong
    else match node with
      | none => .error .noEntry
      | some (.file data _) => .ok data
      | some (.folder ..) => .error .isDirectory
      | some (.link _) => .error .tooManyLinks

theorem read_eq (h : ¬ IsLink (es.find? name)) :
    read disk es name = readNode disk name (es.find? name) := by
  unfold read readNode
  cases disk.reading with
  | some fault => rfl
  | none =>
    simp only [leadsTo_eq h]
    by_cases hlen : FileSystem.maxNameLength < name.length
    · simp only [hlen, if_true]
    · simp only [hlen, if_false]
      cases hnode : es.find? name with
      | none => rfl
      | some node =>
        cases node with
        | file data mode => rfl
        | folder mode es => rfl
        | link path => exact absurd ⟨path, hnode⟩ h

theorem read_of_fault {fault : Fault} (h : disk.reading = some fault) :
    read disk es name = .error fault := by
  unfold read
  rw [h]

theorem find?_delete_of_ne (disk : Disk) (es : Entries) {name other : FileName}
    (h : name ≠ other) : (delete disk es name).find? other = es.find? other := by
  unfold delete
  split
  · rfl
  · rfl
  · rw [Entries.find?_remove, if_neg h]

/-- What was to be deleted is gone or is still there. -/
theorem find?_delete_self (disk : Disk) (es : Entries) (name : FileName) :
    (delete disk es name).find? name = es.find? name ∨
      (delete disk es name).find? name = none := by
  unfold delete
  split
  · exact .inl rfl
  · exact .inl rfl
  · rw [Entries.find?_remove, if_pos rfl]
    exact .inr rfl

theorem find?_delete_eq_none (h : ¬ IsFolder (es.find? name)) (hdisk : disk.deleting = none) :
    (delete disk es name).find? name = none := by
  unfold delete
  split
  · next hfault =>
    rw [hdisk] at hfault
    cases hfault
  · next mode inner _ hfolder => exact absurd ⟨mode, inner, hfolder⟩ h
  · rw [Entries.find?_remove, if_pos rfl]

theorem find?_delete_congr {es₁ es₂ : Entries} {other : FileName}
    (hname : es₁.find? name = es₂.find? name) (hother : es₁.find? other = es₂.find? other) :
    (delete disk es₁ name).find? other = (delete disk es₂ name).find? other := by
  unfold delete
  rw [hname]
  split
  · exact hother
  · exact hother
  · rw [Entries.find?_remove, Entries.find?_remove, hother]

end

end NetDelegate.Scratch
