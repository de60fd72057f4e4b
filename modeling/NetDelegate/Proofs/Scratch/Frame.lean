/-
  NetDelegate/Proofs/Scratch/Frame.lean
  =====================================
  **What operations on the records leave alone.**  An operation works on the names of its
  `footprint` alone: all other names keep their nodes (`find?_perform_of_notMem`), and neither the
  answer nor what is left depends on them (`perform_congr`).  Saving writes through a link that
  stands under the name of a draft, so this is said of folders in which none does
  (`Operation.IsPlain`); no operation makes such links (`DraftsArePlain.perform`,
  `LinkFree.perform`).  The working files of an id are left alone by operations on other ids.
-/
import NetDelegate.Proofs.Scratch.Folder

namespace NetDelegate.Scratch

/-! ### Operations -/

/-- An operation on the records, with the disk that it meets. -/
inductive Operation where
  | put (id : String) (data : Bytes) (disk : Disk := {})
  | take (pid : Nat) (id : String) (disk : Disk := {})

namespace Operation

/-- The id whose record is meant. -/
def id : Operation → String
  | put id _ _ => id
  | take _ id _ => id

/-- The names that an operation works with. -/
def footprint : Operation → List FileName
  | put id _ _ => [recordName id, draftName id]
  | take pid id _ => [recordName id, claimName id pid]

/-- What the operation writes, it writes under the name of the draft: no link stands there. -/
def IsPlain (place : Place) : Operation → Prop
  | put id _ _ => ¬ IsLink (place.find? (draftName id))
  | take .. => True

end Operation

/-- An operation with its answer.  It says too whether the record was replaced or moved away,
    because an operation can fail after that. -/
inductive Exchange where
  | put (id : String) (data : Bytes) (saved : Bool) (answer : Except Failure Unit)
  | take (id : String) (claimed : Bool) (answer : Except Failure Bytes)

/-- Does an operation on the records at a place. -/
def perform (place : Place) : Operation → Exchange × Place
  | .put id data disk =>
    (.put id data (save place id data disk).1.isOk (put place id data disk).1,
      (put place id data disk).2)
  | .take pid id disk =>
    (.take id (claim pid place id disk).isOk (take pid place id disk).1,
      (take pid place id disk).2)

/-! ### Other names -/

section
variable {place : Place} {id : String} {data : Bytes} {disk : Disk} {name : FileName}

/-- Saving changes nothing but the record and its draft. -/
theorem find?_put_of_ne (hplain : ¬ IsLink (place.find? (draftName id)))
    (hrecord : name ≠ recordName id) (hdraft : name ≠ draftName id) :
    (put place id data disk).2.find? name = place.find? name := by
  rw [put_snd]
  generalize hr : save place id data disk = r
  cases hr ▸ saveStep hplain data disk with
  | refused hid => rfl
  | unopened hid ho => rfl
  | unwritten hid ho hw => exact (find?_of_makeFolder ho name).symm
  | broken hid ho hw hd =>
    rw [find?_of_makeFolder ho name, Place.find?_folder, Entries.find?_put, if_neg hdraft.symm]
  | unmoved hid ho hw hd hm =>
    rw [find?_of_makeFolder ho name, Place.find?_folder, Entries.find?_put, if_neg hdraft.symm]
  | saved hid ho hw hd hm =>
    rw [find?_of_makeFolder ho name, Place.find?_folder, find?_moved, if_neg hrecord.symm,
      if_neg hdraft.symm]

/-- Taking changes nothing but the record and its claim. -/
theorem find?_take_of_ne {pid : Nat} (hrecord : name ≠ recordName id)
    (hclaim : name ≠ claimName id pid) :
    (take pid place id disk).2.find? name = place.find? name := by
  generalize hr : take pid place id disk = r
  cases hr ▸ takeStep pid disk place id with
  | unclaimed hunclaimed => rfl
  | unread hid hm hread =>
    rw [Place.find?_folder, Place.find?_folder, find?_delete_of_ne _ _ hclaim.symm, find?_moved,
      if_neg hclaim.symm, if_neg hrecord.symm]
  | taken hid hm hread =>
    rw [Place.find?_folder, Place.find?_folder, find?_delete_of_ne _ _ hclaim.symm, find?_moved,
      if_neg hclaim.symm, if_neg hrecord.symm]

end

/-- All names but those of the footprint keep their nodes. -/
theorem find?_perform_of_notMem {place : Place} {op : Operation} {name : FileName}
    (hplain : op.IsPlain place) (h : name ∉ op.footprint) :
    (perform place op).2.find? name = place.find? name := by
  cases op with
  | put id data disk =>
    simp only [Operation.footprint, List.mem_cons, List.not_mem_nil, or_false, not_or] at h
    exact find?_put_of_ne hplain h.1 h.2
  | take pid id disk =>
    simp only [Operation.footprint, List.mem_cons, List.not_mem_nil, or_false, not_or] at h
    exact find?_take_of_ne h.1 h.2

section
variable {mode₁ mode₂ : Nat} {es₁ es₂ : Entries} {id : String} {disk : Disk}

/-- Saving sees nothing but the record and its draft. -/
theorem save_congr (mode₁ mode₂ : Nat) (disk : Disk) (hplain : ¬ IsLink (es₁.find? (draftName id)))
    (hrecord : es₁.find? (recordName id) = es₂.find? (recordName id))
    (hdraft : es₁.find? (draftName id) = es₂.find? (draftName id)) (data : Bytes) :
    (save (.present (.folder mode₁ es₁)) id data disk).1 =
        (save (.present (.folder mode₂ es₂)) id data disk).1 ∧
      ∀ name, es₁.find? name = es₂.find? name →
        (save (.present (.folder mode₁ es₁)) id data disk).2.find? name =
          (save (.present (.folder mode₂ es₂)) id data disk).2.find? name := by
  have hplain₁ : ¬ IsLink ((Place.present (.folder mode₁ es₁)).find? (draftName id)) := hplain
  have hplain₂ : ¬ IsLink ((Place.present (.folder mode₂ es₂)).find? (draftName id)) := by
    rw [Place.find?_folder, ← hdraft]
    exact hplain
  have opened {mode : Nat} {es : Entries}
      (ho : makeFolder disk (.present (.folder mode₁ es₁)) = .ok (mode, es)) :
      es = es₁ ∧ makeFolder disk (.present (.folder mode₂ es₂)) = .ok (mode₂, es₂) := by
    obtain ⟨hmaking, hopen⟩ := makeFolder_eq_ok_iff.1 ho
    cases hopen
    exact ⟨rfl, makeFolder_eq_ok_iff.2 ⟨hmaking, rfl⟩⟩
  generalize hr : save (.present (.folder mode₁ es₁)) id data disk = r
  cases hr ▸ saveStep hplain₁ data disk with
  | refused hid =>
    rw [save_of_check_error hid]
    exact ⟨rfl, fun name hname => hname⟩
  | @unopened e hid ho =>
    have ho' : makeFolder disk (.present (.folder mode₂ es₂)) = .error e := by
      unfold makeFolder at ho ⊢
      split at ho
      · exact ho
      · cases ho
    rw [(SaveStep.unopened hid ho').save_eq hplain₂]
    exact ⟨rfl, fun name hname => hname⟩
  | unwritten hid ho hw =>
    obtain ⟨rfl, ho'⟩ := opened ho
    have hother : SaveStep (.present (.folder mode₂ es₂)) id data disk _ :=
      .unwritten hid ho' (hdraft ▸ hw)
    rw [hother.save_eq hplain₂]
    exact ⟨rfl, fun name hname => hname⟩
  | broken hid ho hw hd =>
    obtain ⟨rfl, ho'⟩ := opened ho
    have hother : SaveStep (.present (.folder mode₂ es₂)) id data disk _ :=
      .broken hid ho' (hdraft ▸ hw) hd
    rw [hother.save_eq hplain₂]
    refine ⟨rfl, fun name hname => ?_⟩
    simp only [Place.find?_folder, Entries.find?_put, hname]
  | unmoved hid ho hw hd hm =>
    obtain ⟨rfl, ho'⟩ := opened ho
    have hother : SaveStep (.present (.folder mode₂ es₂)) id data disk _ :=
      .unmoved hid ho' (hdraft ▸ hw) hd (hrecord ▸ hm)
    rw [hother.save_eq hplain₂]
    refine ⟨rfl, fun name hname => ?_⟩
    simp only [Place.find?_folder, Entries.find?_put, hname]
  | saved hid ho hw hd hm =>
    obtain ⟨rfl, ho'⟩ := opened ho
    have hother : SaveStep (.present (.folder mode₂ es₂)) id data disk _ :=
      .saved hid ho' (hdraft ▸ hw) hd (hrecord ▸ hm)
    rw [hother.save_eq hplain₂]
    refine ⟨rfl, fun name hname => ?_⟩
    simp only [Place.find?_folder, find?_moved, hname]

/-- So does `put`, as bringing the folder to the disk depends on the disk alone. -/
theorem put_congr {p q : Place} {data : Bytes}
    (h : (save p id data disk).1 = (save q id data disk).1) :
    (put p id data disk).1 = (put q id data disk).1 := by
  rcases hp : save p id data disk with ⟨e | u, left⟩
  · rcases hq : save q id data disk with ⟨e' | u', left'⟩
    · rw [hp, hq] at h
      simp only [put, hp, hq]
      exact h
    · rw [hp, hq] at h
      cases h
  · rcases hq : save q id data disk with ⟨e' | u', left'⟩
    · rw [hp, hq] at h
      cases h
    · simp only [put, hp, hq]
      cases disk.syncing <;> rfl

/-- Saving leaves the same where the folder is there and where it has to be made. -/
theorem find?_save_of_openFolder {place : Place} {mode : Nat} {es : Entries}
    (ho : openFolder place = .ok (mode, es)) (data : Bytes) (name : FileName) :
    (save place id data disk).2.find? name =
      (save (.present (.folder mode es)) id data disk).2.find? name := by
  have hsame : place.find? name = (Place.present (.folder mode es)).find? name :=
    find?_of_openFolder ho name
  cases hmaking : disk.making with
  | none =>
    have hmade : makeFolder disk place = makeFolder disk (.present (.folder mode es)) := by
      simp only [makeFolder, hmaking, ho]
      rfl
    simp only [save, hmade]
    split
    · exact hsame
    · split
      · exact hsame
      · rfl
  | some fault =>
    simp only [save, makeFolder, hmaking]
    split <;> exact hsame

/-- Taking sees nothing but the record and its claim. -/
theorem take_congr (mode₁ mode₂ : Nat) (disk : Disk) {pid : Nat}
    (hplain : ¬ IsLink (es₁.find? (recordName id)))
    (hrecord : es₁.find? (recordName id) = es₂.find? (recordName id))
    (hclaim : es₁.find? (claimName id pid) = es₂.find? (claimName id pid)) :
    (claim pid (.present (.folder mode₁ es₁)) id disk).isOk =
        (claim pid (.present (.folder mode₂ es₂)) id disk).isOk ∧
      (take pid (.present (.folder mode₁ es₁)) id disk).1 =
        (take pid (.present (.folder mode₂ es₂)) id disk).1 ∧
      ∀ name, es₁.find? name = es₂.find? name →
        (take pid (.present (.folder mode₁ es₁)) id disk).2.find? name =
          (take pid (.present (.folder mode₂ es₂)) id disk).2.find? name := by
  cases hid : ContainerId.check id with
  | error e =>
    simp only [take, claim_of_check_error hid]
    exact ⟨trivial, trivial, fun name hname => hname⟩
  | ok u =>
    have hvalid := ContainerId.check_eq_ok_iff.1 hid
    cases hm : movedNode disk (recordName id) (claimName id pid) (es₁.find? (recordName id))
        (es₁.find? (claimName id pid)) with
    | error e =>
      have hm' := hm
      rw [hrecord, hclaim] at hm'
      simp only [take, claim, hid, move_eq, hm, hm', Except.map, failWith]
      exact ⟨trivial, trivial, fun name hname => hname⟩
    | ok node =>
      have hm' := hm
      rw [hrecord, hclaim] at hm'
      have hnode : ¬ IsLink (some node) := by
        rw [← eq_of_movedNode_eq_ok hm]
        exact hplain
      simp only [take, claim_eq_ok_iff.2 ⟨hvalid, node, hm, rfl⟩,
        claim_eq_ok_iff.2 ⟨hvalid, node, hm', rfl⟩, read_moved hnode]
      refine ⟨rfl, ?_, fun name hname => ?_⟩
      · cases readNode disk (claimName id pid) (some node) <;> rfl
      · have hleft : (delete disk (moved es₁ (recordName id) (claimName id pid) node)
              (claimName id pid)).find? name =
            (delete disk (moved es₂ (recordName id) (claimName id pid) node)
              (claimName id pid)).find? name := by
          apply find?_delete_congr
          · simp only [find?_moved, if_true]
          · simp only [find?_moved, hname]
        cases readNode disk (claimName id pid) (some node) <;> exact hleft

end

/-- Nothing but the nodes under the names of the footprint counts for the answer, and for what is
    left under any name nothing but what was there, if the footprint has no links. -/
theorem perform_congr {mode₁ mode₂ : Nat} {es₁ es₂ : Entries} {op : Operation}
    (hlinks : ∀ name ∈ op.footprint, ¬ IsLink (es₁.find? name))
    (h : ∀ name ∈ op.footprint, es₁.find? name = es₂.find? name) :
    (perform (.present (.folder mode₁ es₁)) op).1 = (perform (.present (.folder mode₂ es₂)) op).1 ∧
      ∀ name, es₁.find? name = es₂.find? name →
        (perform (.present (.folder mode₁ es₁)) op).2.find? name =
          (perform (.present (.folder mode₂ es₂)) op).2.find? name := by
  cases op with
  | put id data disk =>
    have hrecord := h (recordName id) (by simp [Operation.footprint])
    have hdraft := h (draftName id) (by simp [Operation.footprint])
    have hplain := hlinks (draftName id) (by simp [Operation.footprint])
    obtain ⟨hsave, hleft⟩ :=
      save_congr mode₁ mode₂ disk hplain hrecord hdraft data
    simp only [perform, put_snd, put_congr hsave, hsave]
    exact ⟨trivial, hleft⟩
  | take pid id disk =>
    have hrecord := h (recordName id) (by simp [Operation.footprint])
    have hclaim := h (claimName id pid) (by simp [Operation.footprint])
    have hplain := hlinks (recordName id) (by simp [Operation.footprint])
    obtain ⟨hclaimed, hanswer, hleft⟩ :=
      take_congr mode₁ mode₂ disk hplain hrecord hclaim
    simp only [perform, hclaimed, hanswer]
    exact ⟨trivial, hleft⟩

/-! ### Links -/

/-- There are no links in the folder at a place. -/
def LinkFree (place : Place) : Prop := ∀ name, ¬ IsLink (place.find? name)

/-- No draft in the folder at a place is a link, so that saving writes where it means to. -/
def DraftsArePlain (place : Place) : Prop := ∀ id, ¬ IsLink (place.find? (draftName id))

theorem LinkFree.draftsArePlain {place : Place} (h : LinkFree place) : DraftsArePlain place :=
  fun id => h (draftName id)

theorem DraftsArePlain.isPlain {place : Place} (h : DraftsArePlain place) (op : Operation) :
    op.IsPlain place := by
  cases op with
  | put id data disk => exact h id
  | take pid id disk => exact trivial

section
variable {place : Place} {id : String} {disk : Disk}

/-- What is under a name after saving: what was there, nothing, or what was written. -/
theorem find?_put (hplain : ¬ IsLink (place.find? (draftName id))) (data : Bytes) (disk : Disk)
    (name : FileName) :
    (put place id data disk).2.find? name = place.find? name ∨
      (put place id data disk).2.find? name = none ∨
        ∃ arrived mode, (put place id data disk).2.find? name = some (.file arrived mode) ∧
          writtenMode disk (draftName id) (place.find? (draftName id)) = .ok mode := by
  rw [put_snd]
  generalize hr : save place id data disk = r
  cases hr ▸ saveStep hplain data disk with
  | refused hid => exact .inl rfl
  | unopened hid ho => exact .inl rfl
  | unwritten hid ho hw => exact .inl (find?_of_makeFolder ho name).symm
  | broken hid ho hw hd =>
    rw [find?_of_makeFolder ho, find?_of_makeFolder ho, Place.find?_folder, Entries.find?_put]
    split
    · exact .inr (.inr ⟨_, _, rfl, hw⟩)
    · exact .inl rfl
  | unmoved hid ho hw hd hm =>
    rw [find?_of_makeFolder ho, find?_of_makeFolder ho, Place.find?_folder, Entries.find?_put]
    split
    · exact .inr (.inr ⟨_, _, rfl, hw⟩)
    · exact .inl rfl
  | saved hid ho hw hd hm =>
    rw [find?_of_makeFolder ho, find?_of_makeFolder ho, Place.find?_folder, find?_moved]
    split
    · exact .inr (.inr ⟨_, _, rfl, hw⟩)
    · split
      · exact .inr (.inl rfl)
      · exact .inl rfl

/-- What is under a name after taking: what was there, nothing, or the record that was claimed. -/
theorem find?_take (pid : Nat) (place : Place) (id : String) (disk : Disk) (name : FileName) :
    (take pid place id disk).2.find? name = place.find? name ∨
      (take pid place id disk).2.find? name = none ∨
        name = claimName id pid ∧
          (take pid place id disk).2.find? name = place.find? (recordName id) := by
  have left {es : Entries} {node : Node}
      (hm : movedNode disk (recordName id) (claimName id pid) (es.find? (recordName id))
        (es.find? (claimName id pid)) = .ok node) :
      let after := delete disk (moved es (recordName id) (claimName id pid) node) (claimName id pid)
      after.find? name = es.find? name ∨ after.find? name = none ∨
        name = claimName id pid ∧ after.find? name = es.find? (recordName id) := by
    intro after
    by_cases hclaim : name = claimName id pid
    · subst hclaim
      rcases find?_delete_self disk (moved es (recordName id) (claimName id pid) node)
          (claimName id pid) with hsame | hnone
      · refine .inr (.inr ⟨rfl, hsame.trans ?_⟩)
        rw [find?_moved, if_pos rfl, eq_of_movedNode_eq_ok hm]
      · exact .inr (.inl hnone)
    · have hfind : after.find? name = if recordName id = name then none else es.find? name := by
        rw [find?_delete_of_ne _ _ (Ne.symm hclaim), find?_moved, if_neg (Ne.symm hclaim)]
      rw [hfind]
      split
      · exact .inr (.inl rfl)
      · exact .inl rfl
  generalize hr : take pid place id disk = r
  cases hr ▸ takeStep pid disk place id with
  | unclaimed hclaim => exact .inl rfl
  | unread hid hm hread => exact left hm
  | taken hid hm hread => exact left hm

end

/-- No operation makes links. -/
theorem LinkFree.perform {place : Place} (h : LinkFree place) (op : Operation) :
    LinkFree (perform place op).2 := by
  intro name
  cases op with
  | put id data disk =>
    rw [Scratch.perform]
    rcases find?_put (h _) data disk name with hsame | hnone | ⟨arrived, mode, hfile, -⟩
    · rw [hsame]
      exact h name
    · rw [hnone]
      exact not_isLink_none
    · rw [hfile]
      exact not_isLink_file arrived mode
  | take pid id disk =>
    rw [Scratch.perform]
    rcases find?_take pid place id disk name with hsame | hnone | ⟨-, hrecord⟩
    · rw [hsame]
      exact h name
    · rw [hnone]
      exact not_isLink_none
    · rw [hrecord]
      exact h (recordName id)

/-- No operation makes a draft that is a link, even if records are links. -/
theorem DraftsArePlain.perform {place : Place} (h : DraftsArePlain place) (op : Operation) :
    DraftsArePlain (perform place op).2 := by
  intro owner
  cases op with
  | put id data disk =>
    rw [Scratch.perform]
    rcases find?_put (h id) data disk (draftName owner) with
      hsame | hnone | ⟨arrived, mode, hfile, -⟩
    · rw [hsame]
      exact h owner
    · rw [hnone]
      exact not_isLink_none
    · rw [hfile]
      exact not_isLink_file arrived mode
  | take pid id disk =>
    rw [Scratch.perform]
    rcases find?_take pid place id disk (draftName owner) with hsame | hnone | ⟨hclaim, -⟩
    · rw [hsame]
      exact h owner
    · rw [hnone]
      exact not_isLink_none
    · exact absurd hclaim (draftName_ne_claimName owner id pid)

/-! ### Working files -/

/-- Is a name that of a working file of an id, in the name of any process? -/
def IsWorkingName (id : String) (name : FileName) : Prop :=
  name = draftName id ∨ ∃ pid, name = claimName id pid

theorem IsWorkingName.isHidden {id : String} {name : FileName} (h : IsWorkingName id name) :
    isHidden name = true := by
  rcases h with rfl | ⟨pid, rfl⟩
  · exact isHidden_draftName id
  · exact isHidden_claimName id pid

theorem IsWorkingName.notMem_footprint {id : String} {name : FileName} (h : IsWorkingName id name)
    {op : Operation} (hop : ContainerId.isValid op.id = true) (hne : op.id ≠ id) :
    name ∉ op.footprint := by
  have hrecord : name ≠ recordName op.id := (recordName_ne_of_isHidden hop h.isHidden).symm
  cases op with
  | put other data disk =>
    simp only [Operation.footprint, List.mem_cons, List.not_mem_nil, or_false, not_or]
    refine ⟨hrecord, ?_⟩
    rcases h with rfl | ⟨pid, rfl⟩
    · exact fun heq => hne (draftName_inj.1 heq).symm
    · exact (draftName_ne_claimName other id pid).symm
  | take pid other disk =>
    simp only [Operation.footprint, List.mem_cons, List.not_mem_nil, or_false, not_or]
    refine ⟨hrecord, ?_⟩
    rcases h with rfl | ⟨owner, rfl⟩
    · exact draftName_ne_claimName id other pid
    · exact fun heq => hne (claimName_inj.1 heq).1.symm

theorem recordName_notMem_footprint {id : String} (hid : ContainerId.isValid id = true)
    {op : Operation} (hne : op.id ≠ id) : recordName id ∉ op.footprint := by
  cases op with
  | put other data disk =>
    simp only [Operation.footprint, List.mem_cons, List.not_mem_nil, or_false, not_or]
    exact ⟨fun heq => hne (recordName_inj.1 heq).symm, recordName_ne_draftName hid other⟩
  | take pid other disk =>
    simp only [Operation.footprint, List.mem_cons, List.not_mem_nil, or_false, not_or]
    exact ⟨fun heq => hne (recordName_inj.1 heq).symm, recordName_ne_claimName hid other pid⟩

/-- What is no id is refused in the same way everywhere. -/
theorem exists_perform_eq_of_not_isValid {op : Operation}
    (h : ¬ ContainerId.isValid op.id = true) : ∃ x, ∀ place, perform place op = (x, place) := by
  cases op with
  | put id data disk =>
    cases hid : ContainerId.check id with
    | ok u => exact absurd (ContainerId.check_eq_ok_iff.1 hid) h
    | error e =>
      refine ⟨.put id data false (.error e), fun place => ?_⟩
      rw [perform, put_of_check_error hid, save_of_check_error hid]
      rfl
  | take pid id disk =>
    cases hid : ContainerId.check id with
    | ok u => exact absurd (ContainerId.check_eq_ok_iff.1 hid) h
    | error e =>
      refine ⟨.take id false (.error e), fun place => ?_⟩
      rw [perform, (TakeStep.unclaimed (claim_of_check_error hid)).take_eq,
        claim_of_check_error hid]
      rfl

/-- The record of an id is left alone by operations on other ids. -/
theorem find?_recordName_perform {place : Place} {op : Operation} {id : String}
    (hplain : op.IsPlain place) (hid : ContainerId.isValid id = true) (hne : op.id ≠ id) :
    (perform place op).2.find? (recordName id) = place.find? (recordName id) :=
  find?_perform_of_notMem hplain (recordName_notMem_footprint hid hne)

/-- An operation neither changes what is under a name nor depends on it, whatever a folder without
    links holds. -/
def Operation.Ignores (op : Operation) (name : FileName) : Prop :=
  (∀ place, LinkFree place → (perform place op).2.find? name = place.find? name) ∧
    ∀ (mode : Nat) (es₁ es₂ : Entries), LinkFree (.present (.folder mode es₁)) →
      (∀ other, other ≠ name → es₁.find? other = es₂.find? other) →
        (perform (.present (.folder mode es₁)) op).1 =
            (perform (.present (.folder mode es₂)) op).1 ∧
          ∀ other, other ≠ name →
            (perform (.present (.folder mode es₁)) op).2.find? other =
              (perform (.present (.folder mode es₂)) op).2.find? other

/-- A working file is left alone by operations on other ids. -/
theorem find?_workingName_perform {place : Place} {op : Operation} {id : String} {name : FileName}
    (hplain : op.IsPlain place) (hname : IsWorkingName id name) (hne : op.id ≠ id) :
    (perform place op).2.find? name = place.find? name := by
  by_cases hop : ContainerId.isValid op.id = true
  · exact find?_perform_of_notMem hplain (hname.notMem_footprint hop hne)
  · obtain ⟨x, hx⟩ := exists_perform_eq_of_not_isValid hop
    rw [hx]

/-- A working file is not looked at by operations on other ids. -/
theorem perform_congr_workingName {mode : Nat} {es₁ es₂ : Entries} {op : Operation} {id : String}
    {name : FileName} (hlinks : LinkFree (.present (.folder mode es₁)))
    (hname : IsWorkingName id name) (hne : op.id ≠ id)
    (hsame : ∀ other, other ≠ name → es₁.find? other = es₂.find? other) :
    (perform (.present (.folder mode es₁)) op).1 = (perform (.present (.folder mode es₂)) op).1 ∧
      ∀ other, other ≠ name →
        (perform (.present (.folder mode es₁)) op).2.find? other =
          (perform (.present (.folder mode es₂)) op).2.find? other := by
  by_cases hop : ContainerId.isValid op.id = true
  · -- the name is not in the footprint, so the folders agree on all that counts
    have hfoot : ∀ other ∈ op.footprint, es₁.find? other = es₂.find? other := by
      intro other hother
      apply hsame
      rintro rfl
      exact hname.notMem_footprint hop hne hother
    obtain ⟨hanswer, hleft⟩ := perform_congr (fun other _ => hlinks other) hfoot
    exact ⟨hanswer, fun other hother => hleft other (hsame other hother)⟩
  · -- the footprint of a text that is no id may hold the name, but such a text is refused
    obtain ⟨x, hx⟩ := exists_perform_eq_of_not_isValid hop
    rw [hx, hx]
    exact ⟨rfl, hsame⟩

end NetDelegate.Scratch
