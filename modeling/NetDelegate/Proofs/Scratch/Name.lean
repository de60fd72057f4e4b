/-
  NetDelegate/Proofs/Scratch/Name.lean
  ====================================
  **The names of records and working files are kept apart.**  An id starts with a letter or a
  digit, so its record is never hidden, while the working files of every id are: they start with
  a dot.  The two kinds of working files differ in their last character, and within one kind the
  name tells the id, since the number of a process has no dash.

  `recordName_ne_draftName`, `recordName_ne_claimName` and `draftName_ne_claimName` keep the kinds
  apart, `recordName_inj`, `draftName_inj` and `claimName_inj` the ids within a kind.
  `length_draftName` and `length_claimName` compare the lengths of the names of one id.
-/
import Mathlib.Tactic.ByContra
import NetDelegate.Scratch

namespace NetDelegate

/-! ### Ids -/

namespace ContainerId

/-- The codes of the letters and digits. -/
theorem isFirst_iff {c : Char} :
    isFirst c = true ↔ (48 ≤ c.toNat ∧ c.toNat ≤ 57) ∨ (65 ≤ c.toNat ∧ c.toNat ≤ 90) ∨
      (97 ≤ c.toNat ∧ c.toNat ≤ 122) := by
  have hranges : isFirst c = ((decide ('A'.val ≤ c.val ∧ c.val ≤ 'Z'.val) ||
      ('a'.val ≤ c.val && c.val ≤ 'z'.val)) || ('0'.val ≤ c.val && c.val ≤ '9'.val)) := rfl
  simp only [hranges, Bool.or_eq_true, Bool.and_eq_true, decide_eq_true_eq,
    UInt32.le_iff_toNat_le, Char.toNat_val]
  simp
  omega

theorem exists_cons_of_isValid {id : String} (h : isValid id = true) :
    ∃ c cs, id.toList = c :: cs ∧ isFirst c = true ∧ cs.all isLater = true := by
  cases hcs : id.toList with
  | nil => simp [isValid, hcs] at h
  | cons c cs =>
    simp only [isValid, hcs, Bool.and_eq_true] at h
    exact ⟨c, cs, rfl, h⟩

/-- The grammar alone decides: what follows it is not blank. -/
theorem check_eq_ok_iff {id : String} : check id = .ok () ↔ isValid id = true := by
  constructor
  · intro h
    by_contra hv
    simp only [check, if_neg hv] at h
    cases hb : checkNonBlank "CNI_CONTAINERID" id with
    | error e => simp [hb, bind, Except.bind] at h
    | ok u => simp [hb, bind, Except.bind, failWith] at h
  · intro hv
    obtain ⟨c, cs, hcs, hc, -⟩ := exists_cons_of_isValid hv
    have hblank : isBlank c = false := by
      have hcode := isFirst_iff.1 hc
      simp [isBlank]
      omega
    have hb : isBlankText id = false := by simp [isBlankText, hcs, hblank]
    simp [check, checkNonBlank, hb, hv, bind, Except.bind]

end ContainerId

/-- Where the last mark of a text stands decides how it is cut there. -/
theorem append_mark_inj {α : Type} {mark : α} {xs ys ds es : List α} (hd : mark ∉ ds)
    (he : mark ∉ es) (h : xs ++ mark :: ds = ys ++ mark :: es) : xs = ys ∧ ds = es := by
  rcases List.append_eq_append_iff.1 h with ⟨mid, hys, hds⟩ | ⟨mid, hxs, hes⟩
  · cases mid with
    | nil => simp_all
    | cons c mid =>
      obtain ⟨-, rfl⟩ := List.cons.inj hds
      simp at hd
  · cases mid with
    | nil => simp_all
    | cons c mid =>
      obtain ⟨-, rfl⟩ := List.cons.inj hes
      simp at he

namespace Scratch

/-! ### Hidden names -/

/-- Does a name start with a dot? -/
def isHidden (name : FileName) : Bool := name.head? = some 46

theorem isHidden_recordName {id : String} (h : ContainerId.isValid id = true) :
    isHidden (recordName id) = false := by
  obtain ⟨c, cs, hcs, hc, -⟩ := ContainerId.exists_cons_of_isValid h
  have hcode := ContainerId.isFirst_iff.1 hc
  have hlt : c.toNat < 0x80 := by omega
  have hne : UInt8.ofNat c.toNat ≠ 46 := by
    intro heq
    have := congrArg UInt8.toNat heq
    rw [Utf8.toNat_ofNat_lt (by omega)] at this
    simp at this
    omega
  simp [isHidden, recordName, utf8, hcs, Utf8.encode_cons, Utf8.encodeChar, hlt, hne]

theorem utf8_dot_append (s : String) : utf8 ("." ++ s) = 46 :: utf8 s := by
  have hdot : utf8 "." = [46] := by decide
  rw [utf8_append, hdot]
  rfl

theorem isHidden_draftName (id : String) : isHidden (draftName id) = true := by
  rw [draftName, String.append_assoc, utf8_dot_append]
  rfl

theorem isHidden_claimName (id : String) (pid : Nat) : isHidden (claimName id pid) = true := by
  rw [claimName, String.append_assoc, String.append_assoc, utf8_dot_append]
  rfl

theorem recordName_ne_of_isHidden {id : String} (h : ContainerId.isValid id = true)
    {name : FileName} (hn : isHidden name = true) : recordName id ≠ name := by
  intro heq
  rw [← heq, isHidden_recordName h] at hn
  cases hn

theorem recordName_ne_draftName {a : String} (h : ContainerId.isValid a = true) (b : String) :
    recordName a ≠ draftName b :=
  recordName_ne_of_isHidden h (isHidden_draftName b)

theorem recordName_ne_claimName {a : String} (h : ContainerId.isValid a = true) (b : String)
    (pid : Nat) : recordName a ≠ claimName b pid :=
  recordName_ne_of_isHidden h (isHidden_claimName b pid)

/-! ### One name, one id -/

theorem recordName_inj {a b : String} : recordName a = recordName b ↔ a = b := utf8_inj

theorem draftName_inj {a b : String} : draftName a = draftName b ↔ a = b := by
  rw [draftName, draftName, utf8_inj, String.append_left_inj, String.append_right_inj]

theorem isDigit_of_mem_decimalDigits {n : Nat} {c : Char} (h : c ∈ Json.Number.decimalDigits n) :
    c.isDigit = true :=
  Nat.isDigit_of_mem_toDigits (by decide) (by decide) h

theorem dash_notMem_decimalDigits (n : Nat) : '-' ∉ Json.Number.decimalDigits n := by
  intro h
  exact absurd (isDigit_of_mem_decimalDigits h) (by decide)

theorem decimalDigits_inj {m n : Nat} :
    Json.Number.decimalDigits m = Json.Number.decimalDigits n ↔ m = n := by
  constructor
  · intro h
    calc
      m = Nat.ofDigitChars 10 (Nat.toDigits 10 m) 0 := Nat.ofDigitChars_ten_toDigits.symm
      _ = Nat.ofDigitChars 10 (Nat.toDigits 10 n) 0 := congrArg (Nat.ofDigitChars 10 · 0) h
      _ = n := Nat.ofDigitChars_ten_toDigits
  · intro h
    rw [h]

theorem claimName_inj {a b : String} {p q : Nat} :
    claimName a p = claimName b q ↔ a = b ∧ p = q := by
  constructor
  · intro h
    have htext := congrArg String.toList (utf8_inj.1 h)
    have hmark : ".taken-".toList = ".taken".toList ++ ['-'] := by decide
    simp only [String.toList_append, String.toList_ofList, hmark, List.append_assoc,
      List.singleton_append] at htext
    simp only [← List.append_assoc] at htext
    obtain ⟨hstart, hdigits⟩ :=
      append_mark_inj (dash_notMem_decimalDigits p) (dash_notMem_decimalDigits q) htext
    have hid := List.append_cancel_left (List.append_cancel_right hstart)
    exact ⟨String.toList_inj.1 hid, decimalDigits_inj.1 hdigits⟩
  · rintro ⟨rfl, rfl⟩
    rfl

/-- A draft ends in a letter and a claim in a digit. -/
theorem draftName_ne_claimName (a b : String) (pid : Nat) : draftName a ≠ claimName b pid := by
  intro h
  have htext := congrArg (fun s : String => s.toList.getLast?) (utf8_inj.1 h)
  have hend : ".tmp".toList = ".tm".toList ++ ['p'] := by decide
  obtain ⟨ds, d, hds⟩ : ∃ ds d, Json.Number.decimalDigits pid = ds ++ [d] :=
    ⟨_, _, (List.dropLast_concat_getLast Nat.toDigits_ne_nil).symm⟩
  simp only [String.toList_append, String.toList_ofList, hend, hds] at htext
  simp only [← List.append_assoc, List.getLast?_concat, Option.some.injEq] at htext
  have hdigit : d.isDigit = true := isDigit_of_mem_decimalDigits (n := pid) (by simp [hds])
  rw [← htext] at hdigit
  exact absurd hdigit (by decide)

/-! ### Lengths -/

theorem length_draftName (id : String) :
    (draftName id).length = (recordName id).length + 5 := by
  have hend : (utf8 ".tmp").length = 4 := by decide
  rw [draftName, String.append_assoc, utf8_dot_append, utf8_append]
  simp only [List.length_cons, List.length_append, hend, recordName]

theorem length_claimName (id : String) (pid : Nat) :
    (claimName id pid).length =
      (recordName id).length + 8 + (Json.Number.decimalDigits pid).length := by
  have hmark : (utf8 ".taken-").length = 7 := by decide
  have hdigits : (utf8 (String.ofList (Json.Number.decimalDigits pid))).length =
      (Json.Number.decimalDigits pid).length := by
    rw [utf8, String.toList_ofList]
    apply Utf8.length_encode_of_ascii
    intro c hc
    have := isDigit_of_mem_decimalDigits hc
    simp only [Char.isDigit, Bool.and_eq_true, decide_eq_true_eq, UInt32.le_iff_toNat_le,
      Char.toNat_val] at this
    simp at this
    omega
  rw [claimName, String.append_assoc, String.append_assoc, utf8_dot_append, utf8_append,
    utf8_append]
  simp only [List.length_cons, List.length_append, hmark, hdigits, recordName]
  omega

end Scratch

end NetDelegate
