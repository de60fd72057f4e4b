/-
  NetDelegate/Proofs/Scratch/Path.lean
  ====================================
  **Ids are safe as names of files.**  The ids that are accepted are the texts of the grammar, and
  no others (`check_eq_ok_iff_isId`).  So the path of a record does not leave its folder
  (`isChild_recordPath`), and the name of a file tells what it is for and whose it is
  (`FileKind.name_inj`).  `ids_safe_as_names` says all of this of the ids that are accepted.
-/
import NetDelegate.Proofs.FileSystem.Path
import NetDelegate.Proofs.Scratch.Name

namespace NetDelegate

namespace ContainerId

/-- An ASCII letter or digit. -/
def IsLetterOrDigit (c : Char) : Prop :=
  ('0' ≤ c ∧ c ≤ '9') ∨ ('A' ≤ c ∧ c ≤ 'Z') ∨ ('a' ≤ c ∧ c ≤ 'z')

instance (c : Char) : Decidable (IsLetterOrDigit c) :=
  inferInstanceAs (Decidable (_ ∨ _ ∨ _))

/-- The grammar of ids: a letter or digit, and then letters, digits, `_`, `.` and `-` to the end. -/
def IsId (s : String) : Prop :=
  ∃ c cs, s.toList = c :: cs ∧ IsLetterOrDigit c ∧
    ∀ d ∈ cs, IsLetterOrDigit d ∨ d = '_' ∨ d = '.' ∨ d = '-'

theorem isFirst_iff_isLetterOrDigit {c : Char} : isFirst c = true ↔ IsLetterOrDigit c := by
  rw [isFirst_iff, IsLetterOrDigit]
  simp only [Char.le_def, UInt32.le_iff_toNat_le, Char.toNat_val]
  rfl

theorem isLater_iff {c : Char} :
    isLater c = true ↔ IsLetterOrDigit c ∨ c = '_' ∨ c = '.' ∨ c = '-' := by
  have hfirst : isLater c = (isFirst c || c = '_' || c = '.' || c = '-') := rfl
  simp only [hfirst, Bool.or_eq_true, isFirst_iff_isLetterOrDigit, decide_eq_true_eq, or_assoc]

/-- **The ids that are accepted** are those of the grammar. -/
theorem check_eq_ok_iff_isId {s : String} : check s = .ok () ↔ IsId s := by
  rw [check_eq_ok_iff, isValid, IsId]
  cases s.toList with
  | nil => simp
  | cons c cs =>
    simp only [Bool.and_eq_true, List.all_eq_true, isFirst_iff_isLetterOrDigit, isLater_iff,
      List.cons.injEq]
    constructor
    · rintro ⟨hc, hcs⟩
      exact ⟨c, cs, ⟨rfl, rfl⟩, hc, hcs⟩
    · rintro ⟨_, _, ⟨rfl, rfl⟩, hc, hcs⟩
      exact ⟨hc, hcs⟩

theorem IsId.slash_notMem {s : String} (h : IsId s) : '/' ∉ s.toList := by
  have hslash : ¬IsLetterOrDigit '/' := by decide
  obtain ⟨c, cs, hs, hc, hcs⟩ := h
  rw [hs, List.mem_cons, not_or]
  constructor
  · rintro rfl
    exact hslash hc
  · intro hmem
    rcases hcs _ hmem with hletter | hmark | hmark | hmark
    · exact hslash hletter
    · exact absurd hmark (by decide)
    · exact absurd hmark (by decide)
    · exact absurd hmark (by decide)

theorem IsId.ne_dot_append {s : String} (h : IsId s) (t : String) : s ≠ "." ++ t := by
  obtain ⟨c, cs, hs, hc, -⟩ := h
  rintro rfl
  have hdot : ("." ++ t).toList = '.' :: t.toList := by
    rw [String.toList_append]
    rfl
  obtain ⟨rfl, -⟩ := List.cons.inj (hs.symm.trans hdot)
  exact absurd hc (by decide)

theorem IsId.isName {s : String} (h : IsId s) : FileSystem.IsName (utf8 s) := by
  refine FileSystem.isName_utf8_iff.2 ⟨?_, h.slash_notMem, h.ne_dot_append "", h.ne_dot_append "."⟩
  rintro rfl
  obtain ⟨c, cs, hs, -⟩ := h
  cases hs

end ContainerId

namespace Scratch

/-! ### Paths of records -/

/-- **The path of a record** is that of the folder with the one name behind it. -/
theorem isChild_recordPath {id : String} (h : ContainerId.IsId id) (folder : Bytes) :
    FileSystem.IsChild folder (recordPath folder id) (recordName id) :=
  FileSystem.isChild_join h.isName

/-! ### What names tell -/

/-- What a file in the folder is for: to keep a record, to write one, or to take one in the name of a
    process. -/
inductive FileKind where
  | record
  | draft
  | claim (pid : Nat)
  deriving DecidableEq, Repr

/-- The name of such a file. -/
def FileKind.name : FileKind → String → FileName
  | record, id => recordName id
  | draft, id => draftName id
  | claim pid, id => claimName id pid

/-- **A name tells what the file is for and whose it is.** -/
theorem FileKind.name_inj {a b : String} (ha : ContainerId.isValid a = true)
    (hb : ContainerId.isValid b = true) {k l : FileKind} :
    k.name a = l.name b ↔ k = l ∧ a = b := by
  refine ⟨fun h => ?_, fun ⟨hkind, hid⟩ => by rw [hkind, hid]⟩
  cases k with
  | record =>
    cases l with
    | record => exact ⟨rfl, recordName_inj.1 h⟩
    | draft => exact absurd h (recordName_ne_draftName ha b)
    | claim q => exact absurd h (recordName_ne_claimName ha b q)
  | draft =>
    cases l with
    | record => exact absurd h.symm (recordName_ne_draftName hb a)
    | draft => exact ⟨rfl, draftName_inj.1 h⟩
    | claim q => exact absurd h (draftName_ne_claimName a b q)
  | claim p =>
    cases l with
    | record => exact absurd h.symm (recordName_ne_claimName hb a p)
    | draft => exact absurd h.symm (draftName_ne_claimName b a p)
    | claim q =>
      obtain ⟨rfl, rfl⟩ := claimName_inj.1 h
      exact ⟨rfl, rfl⟩

/-- **Ids are safe as names of files.**  The ids that are accepted are those of the grammar.  The
    path of a record is that of the folder with the one name behind it, so it leads neither to the
    folder nor to what is above; where the folder is reached, that name is followed from there.
    A record, its draft and its claims have different names, and no two ids share a name. -/
theorem ids_safe_as_names :
    (∀ s, ContainerId.check s = .ok () ↔ ContainerId.IsId s) ∧
    ∀ a b, ContainerId.check a = .ok () → ContainerId.check b = .ok () →
      (∀ folder, FileSystem.IsChild folder (recordPath folder a) (recordName a) ∧
        FileSystem.names (recordPath folder a) ≠ FileSystem.names folder ∧
        FileSystem.names (recordPath folder a) ≠ (FileSystem.names folder).dropLast) ∧
      (∀ root folder here, folder ≠ [] → FileSystem.reach root folder = .found here →
        ∃ links ≤ FileSystem.maxLinks, FileSystem.reach root (recordPath folder a) =
          FileSystem.follow root links here [recordName a]) ∧
      ∀ k l : FileKind, k.name a = l.name b ↔ k = l ∧ a = b := by
  refine ⟨fun s => ContainerId.check_eq_ok_iff_isId, fun a b ha hb => ⟨?_, ?_, ?_⟩⟩
  · intro folder
    have hchild := isChild_recordPath (ContainerId.check_eq_ok_iff_isId.1 ha) folder
    exact ⟨hchild, hchild.names_ne, hchild.names_ne_dropLast⟩
  · intro root folder here hfolder hhere
    obtain ⟨links, hlinks, hreach⟩ :=
      FileSystem.reach_join (ContainerId.check_eq_ok_iff_isId.1 ha).isName hfolder root
    rw [hhere] at hreach
    exact ⟨links, hlinks, hreach⟩
  · intro k l
    exact FileKind.name_inj (ContainerId.check_eq_ok_iff.1 ha) (ContainerId.check_eq_ok_iff.1 hb)

end Scratch

end NetDelegate
