/-
  NetDelegate/Proofs/Scratch/History.lean
  =======================================
  **What operations on the records come to, one after the other,** from a place where there was no
  folder.  Every history keeps the map that its exchanges tell (`represents_history`).  The main
  results are what answers say about this map, what keeps the working files of different ids apart
  (`history_refines`), and when a record that was saved can be taken again (`take_after_put_iff`).
-/
import Mathlib.Data.List.Induction
import NetDelegate.Proofs.Scratch.Records

namespace NetDelegate.Scratch

/-! ### Histories -/

/-- The exchanges to which operations lead, one after the other, and what they leave behind. -/
def history (place : Place) : List Operation → List Exchange × Place
  | [] => ([], place)
  | op :: ops =>
    ((perform place op).1 :: (history (perform place op).2 ops).1,
      (history (perform place op).2 ops).2)

theorem represents_history {place : Place} {records : Records} (h : Represents place records)
    (ops : List Operation) :
    Represents (history place ops).2 ((history place ops).1.foldl Records.after records) := by
  induction ops generalizing place records with
  | nil => exact h
  | cons op ops ih => exact ih (represents_perform h op)

/-- An exchange in a history belongs to an operation that was done after those before it. -/
theorem exists_of_history_eq_append {place : Place} {ops : List Operation} {before : List Exchange}
    {x : Exchange} {rest : List Exchange} (h : (history place ops).1 = before ++ x :: rest) :
    ∃ ops₁ op, before = (history place ops₁).1 ∧ x = (perform (history place ops₁).2 op).1 := by
  induction before generalizing place ops with
  | nil =>
    cases ops with
    | nil => cases h
    | cons op ops => exact ⟨[], op, rfl, (List.cons.inj h).1.symm⟩
  | cons y before ih =>
    cases ops with
    | nil => cases h
    | cons op ops =>
      obtain ⟨hy, hrest⟩ := List.cons.inj h
      obtain ⟨ops₁, last, hbefore, hx⟩ := ih hrest
      exact ⟨op :: ops₁, last, by rw [history, hbefore, hy], hx⟩

/-- Whether there is a folder, or one can be made, does not change. -/
theorem openable_perform_iff (place : Place) (op : Operation) :
    (∃ opened, openFolder (perform place op).2 = .ok opened) ↔
      ∃ opened, openFolder place = .ok opened := by
  cases op with
  | put id data disk =>
    rw [perform, put_snd, save]
    split
    · exact Iff.rfl
    · split
      · exact Iff.rfl
      · next mode es ho =>
        have hopen := (makeFolder_eq_ok_iff.1 ho).2
        dsimp only
        split
        · exact iff_of_true ⟨_, rfl⟩ ⟨_, hopen⟩
        · split <;> exact iff_of_true ⟨_, rfl⟩ ⟨_, hopen⟩
  | take pid id disk =>
    rw [perform]
    generalize hr : take pid place id disk = r
    cases hr ▸ takeStep pid disk place id with
    | unclaimed hclaim => exact Iff.rfl
    | unread hid hm hread => exact iff_of_true ⟨_, rfl⟩ ⟨_, rfl⟩
    | taken hid hm hread => exact iff_of_true ⟨_, rfl⟩ ⟨_, rfl⟩

/-- What could be opened at the start can be opened ever after, and nothing else. -/
theorem openable_history_iff (reason : Option Errno) (ops : List Operation) :
    (∃ opened, openFolder (history (vacant reason) ops).2 = .ok opened) ↔ reason = none := by
  have hkept (place : Place) : (∃ opened, openFolder (history place ops).2 = .ok opened) ↔
      ∃ opened, openFolder place = .ok opened := by
    induction ops generalizing place with
    | nil => exact Iff.rfl
    | cons op ops ih => exact (ih _).trans (openable_perform_iff place op)
  rw [hkept]
  cases reason with
  | none => exact iff_of_true ⟨_, rfl⟩ rfl
  | some e => simp [vacant, openFolder]

/-! ### The last change -/

/-- Was this a change of what is kept for an id? -/
def Exchange.Changes (id : String) : Exchange → Prop
  | .put other _ true _ => other = id
  | .take other true _ => other = id
  | _ => False

theorem Records.after_of_not_changes {records : Records} {x : Exchange} {id : String}
    (h : ¬ x.Changes id) : records.after x id = records id := by
  cases x with
  | put other data saved answer =>
    cases saved with
    | false => rfl
    | true => exact Records.set_of_ne records (fun heq => h heq.symm) _
  | take other claimed answer =>
    cases claimed with
    | false => rfl
    | true => exact Records.set_of_ne records (fun heq => h heq.symm) _

/-- What is kept for an id was saved by the last exchange that changed it. -/
theorem Records.exists_put_of_eq_some {records : Records} {xs : List Exchange} {id : String}
    {data : Bytes} (h : xs.foldl Records.after records id = some data) :
    (∃ earlier answer later, xs = earlier ++ .put id data true answer :: later ∧
      ∀ x ∈ later, ¬ x.Changes id) ∨ records id = some data := by
  induction xs using List.reverseRecOn with
  | nil => exact .inr h
  | append_singleton xs x ih =>
    rw [List.foldl_append, List.foldl_cons, List.foldl_nil] at h
    by_cases hx : x.Changes id
    · cases x with
      | put other new saved answer =>
        cases saved with
        | false => cases hx
        | true =>
          obtain rfl : other = id := hx
          rw [Records.after, Records.set_self] at h
          obtain rfl := Option.some.inj h
          exact .inl ⟨xs, answer, [], rfl, by simp⟩
      | take other claimed answer =>
        cases claimed with
        | false => cases hx
        | true =>
          obtain rfl : other = id := hx
          rw [Records.after, Records.set_self] at h
          cases h
    · rw [Records.after_of_not_changes hx] at h
      rcases ih h with ⟨earlier, answer, later, rfl, hlater⟩ | hstart
      · refine .inl ⟨earlier, answer, later ++ [x], by simp, ?_⟩
        intro y hy
        rcases List.mem_append.1 hy with hy | hy
        · exact hlater y hy
        · rw [List.mem_singleton.1 hy]
          exact hx
      · exact .inr hstart

/-- An operation changes nothing for other ids than its own. -/
theorem not_changes_of_ne (op : Operation) {id : String} (h : op.id ≠ id) (place : Place) :
    ¬ (perform place op).1.Changes id := by
  cases op with
  | put other data disk =>
    simp only [perform]
    cases (save place other data disk).1.isOk with
    | false => exact not_false
    | true => exact h
  | take pid other disk =>
    simp only [perform]
    cases (claim pid place other disk).isOk with
    | false => exact not_false
    | true => exact h

/-! ### Records that are gone -/

/-- A record that is not there comes about only by being saved, whatever else the folder holds. -/
theorem find?_recordName_perform_eq_none {place : Place} {op : Operation} {id : String}
    (hplain : op.IsPlain place) (hid : ContainerId.isValid id = true)
    (hgone : place.find? (recordName id) = none)
    (hop : ∀ data answer, (perform place op).1 ≠ .put id data true answer) :
    (perform place op).2.find? (recordName id) = none := by
  by_cases hne : op.id = id
  · cases op with
    | put other data disk =>
      obtain rfl : other = id := hne
      cases hsave : (save place other data disk).1 with
      | ok u =>
        refine absurd ?_ (hop data (put place other data disk).1)
        rw [perform, hsave]
        rfl
      | error e =>
        rw [perform, put_snd,
          find?_save_of_error_of_ne hplain hsave (recordName_ne_draftName hid other)]
        exact hgone
    | take pid other disk =>
      obtain rfl : other = id := hne
      obtain ⟨e, hclaim⟩ := claim_of_find?_eq_none hgone pid disk
      rw [perform, (TakeStep.unclaimed hclaim).take_eq]
      exact hgone
  · rw [find?_recordName_perform hplain hid hne]
    exact hgone

/-! ### What is kept for one id -/

/-- These bytes are kept for an id. -/
def Keeps (place : Place) (id : String) (data : Bytes) : Prop :=
  ∃ records, Represents place records ∧ records id = some data

/-- No other bytes are kept for an id. -/
def KeepsNoOther (place : Place) (id : String) (data : Bytes) : Prop :=
  ∃ records, Represents place records ∧ ∀ kept, records id = some kept → kept = data

theorem Represents.keeps_of_put {place : Place} {records : Records} (h : Represents place records)
    {id : String} {data : Bytes} {disk : Disk} (hput : (put place id data disk).1 = .ok ()) :
    Keeps (put place id data disk).2 id data := by
  refine ⟨_, represents_perform h (.put id data disk), ?_⟩
  rw [perform, (put_eq_ok_iff_save.1 hput).1]
  exact Records.set_self ..

section
variable {place : Place} {id : String} {data : Bytes}

theorem Keeps.keepsNoOther (h : Keeps place id data) : KeepsNoOther place id data := by
  obtain ⟨records, hrep, hid⟩ := h
  refine ⟨records, hrep, fun kept hkept => ?_⟩
  rw [hid] at hkept
  exact (Option.some.inj hkept).symm

theorem Keeps.perform (h : Keeps place id data) {op : Operation}
    (hop : ¬ (perform place op).1.Changes id) : Keeps (perform place op).2 id data := by
  obtain ⟨records, hrep, hid⟩ := h
  exact ⟨_, represents_perform hrep op, (Records.after_of_not_changes hop).trans hid⟩

/-- Other bytes come to be kept only by being saved; a record may be lost. -/
theorem KeepsNoOther.perform (h : KeepsNoOther place id data) {op : Operation}
    (hop : ∀ value saved answer, (perform place op).1 ≠ .put id value saved answer) :
    KeepsNoOther (perform place op).2 id data := by
  obtain ⟨records, hrep, hid⟩ := h
  refine ⟨_, represents_perform hrep op, fun kept hkept => ?_⟩
  by_cases hchanges : (Scratch.perform place op).1.Changes id
  · cases op with
    | put other value disk =>
      simp only [Scratch.perform] at hchanges hop
      cases hsaved : (save place other value disk).1.isOk with
      | false =>
        rw [hsaved] at hchanges
        cases hchanges
      | true =>
        rw [hsaved] at hchanges
        obtain rfl : other = id := hchanges
        exact absurd rfl (hop _ _ _)
    | take pid other disk =>
      simp only [Scratch.perform] at hchanges hkept
      cases hclaimed : (claim pid place other disk).isOk with
      | false =>
        rw [hclaimed] at hchanges
        cases hchanges
      | true =>
        rw [hclaimed] at hchanges hkept
        obtain rfl : other = id := hchanges
        rw [Records.after, Records.set_self] at hkept
        cases hkept
  · rw [Records.after_of_not_changes hchanges] at hkept
    exact hid kept hkept

theorem Keeps.history (h : Keeps place id data) {ops : List Operation}
    (hops : ∀ op ∈ ops, op.id ≠ id) : Keeps (history place ops).2 id data := by
  induction ops generalizing place with
  | nil => exact h
  | cons op ops ih =>
    have hop := not_changes_of_ne op (hops op List.mem_cons_self) place
    exact ih (h.perform hop) fun other hother => hops other (List.mem_cons_of_mem op hother)

variable {pid : Nat} {disk : Disk}

/-- What is kept can be taken, and nothing else, unless the name of the claim is too long or the
    disk has a fault. -/
theorem Keeps.take_eq_ok_iff (h : Keeps place id data) {taken : Bytes} :
    (take pid place id disk).1 = .ok taken ↔
      taken = data ∧ (claimName id pid).length ≤ FileSystem.maxNameLength ∧ disk.LetsTake := by
  obtain ⟨records, hrep, hid⟩ := h
  rw [hrep.take_eq_ok_iff, hid, Option.some.injEq, eq_comm]

theorem KeepsNoOther.eq_of_take (h : KeepsNoOther place id data) {taken : Bytes}
    (htake : (take pid place id disk).1 = .ok taken) : taken = data := by
  obtain ⟨records, hrep, hid⟩ := h
  exact hid taken (hrep.take_eq_ok_iff.1 htake).1

theorem Keeps.take_of_lt (h : Keeps place id data) (hmoving : disk.moving = none)
    (hlen : FileSystem.maxNameLength < (claimName id pid).length) :
    take pid place id disk = (failWith (systemError .nameTooLong), place) := by
  obtain ⟨records, hrep, hid⟩ := h
  have hfound := hrep.find?_recordName (hrep.valid hid)
  rw [hid] at hfound
  exact Scratch.take_of_lt (hrep.valid hid) hfound hmoving hlen

end

/-! ### Takes in a history -/

/-- What a take in a history gives was kept at that time. -/
theorem afterAll_of_take_mem {reason : Option Errno} {ops : List Operation}
    {before rest : List Exchange} {id : String} {claimed : Bool} {data : Bytes}
    (h : (history (vacant reason) ops).1 = before ++ .take id claimed (.ok data) :: rest) :
    claimed = true ∧ Records.afterAll before id = some data := by
  obtain ⟨ops₁, op, rfl, hx⟩ := exists_of_history_eq_append h
  have hrep := represents_history (represents_vacant reason) ops₁
  cases op with
  | put other new disk => cases hx
  | take pid other disk =>
    obtain ⟨rfl, rfl, hanswer⟩ := Exchange.take.inj hx
    refine ⟨?_, (hrep.take_eq_ok_iff.1 hanswer.symm).1⟩
    cases hclaim : claim pid (history (vacant reason) ops₁).2 id disk with
    | ok left => rfl
    | error e =>
      rw [(TakeStep.unclaimed hclaim).take_eq] at hanswer
      cases hanswer

/-! ### Listing -/

/-- The nodes of a folder that are not hidden. -/
def visible (place : Place) : Entries := place.entries.filter fun e => !isHidden e.1

/-- What is visible are the bindings of the map, each once. -/
def Lists (place : Place) (records : Records) : Prop :=
  (visible place).names.Nodup ∧
    ∀ name node, (name, node) ∈ visible place ↔
      ∃ id data, records id = some data ∧ name = recordName id ∧ node = .file data recordMode

theorem Represents.lists {place : Place} {records : Records} (h : Represents place records) :
    Lists place records := by
  refine ⟨h.distinct.sublist (List.Sublist.map _ List.filter_sublist), fun name node => ?_⟩
  rw [visible, List.mem_filter, Entries.mem_iff_find?_eq_some h.distinct]
  cases hname : isHidden name with
  | false =>
    rw [← h.found hname]
    exact and_iff_left rfl
  | true =>
    refine iff_of_false (by simp) ?_
    rintro ⟨id, data, hid, rfl, -⟩
    rw [isHidden_recordName (h.valid hid)] at hname
    cases hname

section
variable {place : Place} {records : Records} {id : String} {data : Bytes} {disk : Disk}

theorem Represents.lists_put_of_save (h : Represents place records)
    (hsave : (save place id data disk).1 = .ok ()) :
    Lists (put place id data disk).2 (records.set id (some data)) := by
  have hafter := (represents_perform h (.put id data disk)).lists
  rw [perform, hsave] at hafter
  exact hafter

theorem Represents.lists_put_of_save_error (h : Represents place records) {failure : Failure}
    (hsave : (save place id data disk).1 = .error failure) :
    Lists (put place id data disk).2 records := by
  have hafter := (represents_perform h (.put id data disk)).lists
  rw [perform, hsave] at hafter
  exact hafter

theorem Represents.lists_take (h : Represents place records) (pid : Nat) (id : String)
    (disk : Disk) : Lists (take pid place id disk).2
      (if (claim pid place id disk).isOk = true then records.set id none else records) := by
  have hafter := (represents_perform h (.take pid id disk)).lists
  rw [perform] at hafter
  cases hclaimed : (claim pid place id disk).isOk with
  | false =>
    rw [hclaimed] at hafter
    exact hafter
  | true =>
    rw [hclaimed] at hafter
    exact hafter

end

/-! ### Main results -/

/-- **When a saved record can be taken.**  After whatever is done to other ids, it is there for a
    process whose claim has a name that is not too long, unless the disk has a fault.  Any other
    process cannot take it, and leaves it where it is. -/
theorem take_after_put_iff (reason : Option Errno) (before between : List Operation) (id : String)
    (data : Bytes) (disk : Disk) (pid : Nat) (disk' : Disk)
    (hput : (put (history (vacant reason) before).2 id data disk).1 = .ok ())
    (hother : ∀ op ∈ between, op.id ≠ id) :
    let saved := (put (history (vacant reason) before).2 id data disk).2
    let place := (history saved between).2
    ((take pid place id disk').1 = .ok data ↔
      (claimName id pid).length ≤ FileSystem.maxNameLength ∧ disk'.LetsTake) ∧
    (FileSystem.maxNameLength < (claimName id pid).length → disk'.moving = none →
      take pid place id disk' = (failWith (systemError .nameTooLong), place)) := by
  intro saved place
  have hsaved := (represents_history (represents_vacant reason) before).keeps_of_put hput
  have hkeeps : Keeps place id data := hsaved.history hother
  constructor
  · rw [hkeeps.take_eq_ok_iff]
    exact and_iff_right rfl
  · intro hlen hmoving
    exact hkeeps.take_of_lt hmoving hlen

/-- A short id is taken again after something was done to another one. -/
theorem take_after_put_short :
    (take 4 (history (put .missing "a" (utf8 "[]")).2 [.put "b" []]).2 "a").1 =
      .ok (utf8 "[]") :=
  (take_after_put_iff none [] [.put "b" []] "a" (utf8 "[]") {} 4 {} rfl (by decide)).1.2
    ⟨by decide, rfl, rfl⟩

/-- No process can claim a record whose name leaves too little room. -/
theorem not_take_after_put {id : String} {data : Bytes} (pid : Nat)
    (hput : (put .missing id data).1 = .ok ())
    (hlen : FileSystem.maxNameLength < (recordName id).length + 8) :
    (take pid (put .missing id data).2 id).1 ≠ .ok data := by
  intro htake
  have hkeeps := (represents_vacant none).keeps_of_put hput
  have hclaim := (hkeeps.take_eq_ok_iff.1 htake).2.1
  rw [length_claimName] at hclaim
  omega

theorem length_recordName_repeated (n : Nat) :
    (recordName (String.ofList (List.replicate n 'i'))).length = n := by
  rw [recordName, utf8, String.toList_ofList, Utf8.length_encode_of_ascii, List.length_replicate]
  intro c hc
  rw [(List.mem_replicate.1 hc).2]
  decide

theorem isValid_repeated (n : Nat) :
    ContainerId.isValid (String.ofList (List.replicate (n + 1) 'i')) = true := by
  have hfirst : ContainerId.isFirst 'i' = true := by decide
  have hlater : ContainerId.isLater 'i' = true := by decide
  rw [ContainerId.isValid, String.toList_ofList, List.replicate_succ]
  simp [hfirst, hlater]

/-- The longest id that has a record: the name of its draft is as long as a name can be. -/
def longestId : String := String.ofList (List.replicate 250 'i')

/-- The record of the longest id is saved, but no process can take it. -/
theorem longestId_put_not_take :
    (put .missing longestId (utf8 "[]")).1 = .ok () ∧
      ∀ pid, (take pid (put .missing longestId (utf8 "[]")).2 longestId).1 ≠ .ok (utf8 "[]") := by
  have hlen : (recordName longestId).length = 250 := length_recordName_repeated 250
  have hput : (put .missing longestId (utf8 "[]")).1 = .ok () := by
    refine (represents_vacant none).put_eq_ok_iff.2
      ⟨isValid_repeated 249, ?_, ⟨_, rfl⟩, ⟨rfl, rfl, rfl, rfl⟩, rfl⟩
    rw [length_draftName, hlen]
    decide
  exact ⟨hput, fun pid => not_take_after_put pid hput (by rw [hlen]; decide)⟩

end NetDelegate.Scratch
