/-
  NetDelegate/Proofs/Text/Lowercase.lean
  ======================================
  **Small letters and blanks.**  A blank is its own small form, no other character has a blank in
  its small form, and blanks have no say in what becomes of a capital sigma.  So blanks may be
  dropped from the ends of a text before its small form is taken or after (`lowercase_trim`), and
  texts that differ only in case still do without them (`lowercase_trim_congr`).
-/
import Mathlib.Data.List.Basic
import Mathlib.Data.List.TakeWhile
import NetDelegate.Proofs.Text.Utf8
import NetDelegate.Text.Blank
import NetDelegate.Text.Lowercase

namespace NetDelegate

/-! ### Blanks in the tables -/

/-- The numbers of the blanks. -/
def blankCodes : List Nat :=
  [0x9, 0xA, 0xB, 0xC, 0xD, 0x20, 0x85, 0xA0, 0x1680, 0x2000, 0x2001, 0x2002, 0x2003, 0x2004,
    0x2005, 0x2006, 0x2007, 0x2008, 0x2009, 0x200A, 0x2028, 0x2029, 0x202F, 0x205F, 0x3000]

theorem isBlank_iff_mem_blankCodes {c : Char} : isBlank c = true ↔ c.toNat ∈ blankCodes := by
  simp only [isBlank, blankCodes, Bool.or_eq_true, Bool.and_eq_true, decide_eq_true_eq,
    List.mem_cons, List.not_mem_nil, or_false]
  omega

/-- No blank has a number in one of the ranges. -/
def CodeSet.AvoidsBlanks (t : CodeSet) : Prop :=
  ∀ r ∈ t.ranges, ∀ b ∈ blankCodes, b < r.1 ∨ r.2 < b

theorem CodeSet.AvoidsBlanks.contains_eq_false {t : CodeSet} (h : t.AvoidsBlanks) {c : Char}
    (hc : isBlank c = true) : t.contains c = false := by
  rw [CodeSet.contains, List.any_eq_false]
  intro r hr hcontains
  simp only [Bool.and_eq_true, decide_eq_true_eq] at hcontains
  rcases h r hr _ (isBlank_iff_mem_blankCodes.1 hc) with hlt | hlt
  · exact absurd hcontains.1 (Nat.not_le.2 hlt)
  · exact absurd hcontains.2 (Nat.not_le.2 hlt)

/-- The rule has an image, applies to no blank, and leads to none. -/
def CodeRule.AvoidsBlanks (r : CodeRule) : Prop :=
  r.image ≠ [] ∧ (∀ b ∈ blankCodes, b < r.first ∨ r.last < b) ∧
    ∀ m ∈ r.image, ∀ b ∈ blankCodes, b < m ∨ m + (r.last - r.first) < b

theorem CodeRule.AvoidsBlanks.not_applies {r : CodeRule} (h : r.AvoidsBlanks) {n : Nat}
    (hn : n ∈ blankCodes) : r.image? n = none := by
  refine if_neg ?_
  rintro ⟨hfirst, hlast, -⟩
  rcases h.2.1 n hn with hlt | hlt
  · exact absurd hfirst (Nat.not_le.2 hlt)
  · exact absurd hlast (Nat.not_le.2 hlt)

theorem CodeRule.AvoidsBlanks.of_image? {r : CodeRule} (h : r.AvoidsBlanks) {n : Nat}
    {image : List Nat} (himage : r.image? n = some image) :
    image ≠ [] ∧ ∀ m ∈ image, m ∉ blankCodes := by
  unfold CodeRule.image? at himage
  split at himage
  · next hrule =>
    have hstep : ∀ m ∈ r.image, ∀ k ≤ r.last - r.first, m + k ∉ blankCodes := by
      intro m hm k hk hblank
      rcases h.2.2 m hm _ hblank with hlt | hlt
      · omega
      · omega
    split at himage
    · cases himage
      exact ⟨h.1, fun m hm => hstep m hm 0 (Nat.zero_le _)⟩
    · cases himage
      -- the image moves with the number, and no further than the rule goes
      refine ⟨mt List.map_eq_nil_iff.1 h.1, fun m hm => ?_⟩
      obtain ⟨k, hk, rfl⟩ := List.mem_map.1 hm
      exact hstep k hk _ (by omega)
  · cases himage

-- The tables are long texts, so their characters are listed before anything is computed.
set_option maxRecDepth 20000 in
theorem avoidsBlanks_casedTable : casedTable.AvoidsBlanks := by
  unfold casedTable CodeSet.ofHex tableWords
  rw [String.toList_ofList]
  unfold CodeSet.AvoidsBlanks
  decide +kernel

set_option maxRecDepth 20000 in
theorem avoidsBlanks_caseIgnorableTable : caseIgnorableTable.AvoidsBlanks := by
  unfold caseIgnorableTable CodeSet.ofHex tableWords
  rw [String.toList_ofList]
  unfold CodeSet.AvoidsBlanks
  decide +kernel

set_option maxRecDepth 20000 in
theorem avoidsBlanks_smallLetters : ∀ r ∈ smallLetters.rules, r.AvoidsBlanks := by
  unfold smallLetters CodeMap.ofHex tableWords
  rw [String.toList_ofList]
  unfold CodeRule.AvoidsBlanks
  decide +kernel

/-! ### Blanks and their small forms -/

theorem lowerChar_of_isBlank {c : Char} (h : isBlank c = true) : lowerChar c = [c] := by
  have hcode := isBlank_iff_mem_blankCodes.1 h
  have hascii : ∀ n ∈ blankCodes, n < 0x80 → (Char.ofNat n).toLower = Char.ofNat n := by decide
  have hlower := hascii c.toNat hcode
  rw [Char.ofNat_toNat] at hlower
  have himage : smallLetters.image? c = none := by
    rw [CodeMap.image?, List.findSome?_eq_none_iff.2 fun r hr =>
      (avoidsBlanks_smallLetters r hr).not_applies hcode]
    rfl
  unfold lowerChar
  split
  · next hlt => rw [hlower hlt]
  · split
    · next hdotted =>
      rw [hdotted] at hcode
      exact absurd hcode (by decide)
    · rw [himage]
      rfl

theorem isBlank_ofNat {n : Nat} (h : n ∉ blankCodes) : isBlank (Char.ofNat n) = false := by
  by_cases hvalid : n.isValidChar
  · rw [Bool.eq_false_iff, Ne, isBlank_iff_mem_blankCodes, Utf8.toNat_ofNat_of_valid hvalid]
    exact h
  · rw [Char.ofNat, dif_neg hvalid]
    rfl

/-- The small form of a character that is no blank has characters, and no blank. -/
theorem lowerChar_of_not_isBlank {c : Char} (h : isBlank c = false) :
    lowerChar c ≠ [] ∧ ∀ d ∈ lowerChar c, isBlank d = false := by
  unfold lowerChar
  split
  · next hascii =>
    have hall : ∀ n < 0x80, isBlank (Char.ofNat n).toLower = isBlank (Char.ofNat n) := by decide
    have hc := hall c.toNat hascii
    rw [Char.ofNat_toNat] at hc
    simp [hc, h]
  · split
    · exact ⟨List.cons_ne_nil _ _,
        List.forall_mem_cons.2 ⟨by decide, List.forall_mem_singleton.2 (by decide)⟩⟩
    · cases himage : smallLetters.image? c with
      | none => simp [h]
      | some image =>
        obtain ⟨numbers, hnumbers, rfl⟩ := Option.map_eq_some_iff.1 himage
        obtain ⟨r, hr, hfound⟩ := List.exists_of_findSome?_eq_some hnumbers
        obtain ⟨hne, havoids⟩ := (avoidsBlanks_smallLetters r hr).of_image? hfound
        refine ⟨mt List.map_eq_nil_iff.1 hne, fun d hd => ?_⟩
        obtain ⟨n, hn, rfl⟩ := List.mem_map.1 hd
        exact isBlank_ofNat (havoids n hn)

/-! ### Blanks in a text -/

/-- The small form of a character between the text before it, last character first, and the text
    after it. -/
def smallForm (before : List Char) (c : Char) (after : List Char) : List Char :=
  if c.toNat = 0x3A3 then
    if meetsCased before && !meetsCased after then ['ς'] else ['σ']
  else lowerChar c

theorem lowerFrom_cons (before : List Char) (c : Char) (cs : List Char) :
    lowerFrom before (c :: cs) = smallForm before c cs ++ lowerFrom (c :: before) cs := rfl

theorem smallForm_of_isBlank {c : Char} (h : isBlank c = true) (before after : List Char) :
    smallForm before c after = [c] := by
  have hsigma : c.toNat ≠ 0x3A3 := by
    intro hsigma
    have hcode := isBlank_iff_mem_blankCodes.1 h
    rw [hsigma] at hcode
    exact absurd hcode (by decide)
  rw [smallForm, if_neg hsigma, lowerChar_of_isBlank h]

theorem smallForm_of_not_isBlank {c : Char} (h : isBlank c = false) (before after : List Char) :
    smallForm before c after ≠ [] ∧ ∀ d ∈ smallForm before c after, isBlank d = false := by
  unfold smallForm
  split
  · split
    · exact ⟨List.cons_ne_nil _ _, List.forall_mem_singleton.2 (by decide)⟩
    · exact ⟨List.cons_ne_nil _ _, List.forall_mem_singleton.2 (by decide)⟩
  · exact lowerChar_of_not_isBlank h

section
variable {blanks : List Char} (hblanks : ∀ c ∈ blanks, isBlank c = true)
include hblanks

theorem meetsCased_append_blanks (cs : List Char) : meetsCased (cs ++ blanks) = meetsCased cs := by
  unfold meetsCased
  rw [List.dropWhile_append]
  cases hrest : cs.dropWhile caseIgnorableTable.contains with
  | cons c rest => rfl
  | nil =>
    cases blanks with
    | nil => rfl
    | cons b bs =>
      -- a blank is not passed over, and it is no letter
      have hb := hblanks b List.mem_cons_self
      simp [avoidsBlanks_casedTable.contains_eq_false hb,
        avoidsBlanks_caseIgnorableTable.contains_eq_false hb]

theorem lowerFrom_before_append_blanks (before cs : List Char) :
    lowerFrom (before ++ blanks) cs = lowerFrom before cs := by
  induction cs generalizing before with
  | nil => rfl
  | cons c cs ih =>
    have hform : smallForm (before ++ blanks) c cs = smallForm before c cs := by
      rw [smallForm, smallForm, meetsCased_append_blanks hblanks]
    rw [lowerFrom_cons, lowerFrom_cons, hform, ← List.cons_append, ih]

theorem lowerFrom_blanks (before : List Char) : lowerFrom before blanks = blanks := by
  induction blanks generalizing before with
  | nil => rfl
  | cons b bs ih =>
    obtain ⟨hb, hbs⟩ := List.forall_mem_cons.1 hblanks
    rw [lowerFrom_cons, smallForm_of_isBlank hb, ih hbs, List.singleton_append]

theorem lowerFrom_append_blanks (before cs : List Char) :
    lowerFrom before (cs ++ blanks) = lowerFrom before cs ++ blanks := by
  induction cs generalizing before with
  | nil => exact lowerFrom_blanks hblanks before
  | cons c cs ih =>
    have hform : smallForm before c (cs ++ blanks) = smallForm before c cs := by
      rw [smallForm, smallForm, meetsCased_append_blanks hblanks]
    rw [List.cons_append, lowerFrom_cons, lowerFrom_cons, hform, ih, List.append_assoc]

theorem lowerFrom_blanks_append (before cs : List Char) :
    lowerFrom before (blanks ++ cs) = blanks ++ lowerFrom (blanks.reverse ++ before) cs := by
  induction blanks generalizing before with
  | nil => rfl
  | cons b bs ih =>
    obtain ⟨hb, hbs⟩ := List.forall_mem_cons.1 hblanks
    rw [List.cons_append, lowerFrom_cons, smallForm_of_isBlank hb, ih hbs, List.singleton_append,
      List.reverse_cons, List.append_assoc, List.singleton_append, List.cons_append]

end

theorem exists_lowerFrom_concat (before cs : List Char) (c : Char) :
    ∃ start before', lowerFrom before (cs ++ [c]) = start ++ smallForm before' c [] := by
  induction cs generalizing before with
  | nil => exact ⟨[], before, List.append_nil _⟩
  | cons d ds ih =>
    obtain ⟨start, before', hsame⟩ := ih (d :: before)
    exact ⟨smallForm before d (ds ++ [c]) ++ start, before',
      by rw [List.cons_append, lowerFrom_cons, hsame, List.append_assoc]⟩

/-! ### The ends of a text -/

/-- A text without blanks at its ends. -/
def IsTrimmed (cs : List Char) : Prop :=
  (∀ c ∈ cs.head?, isBlank c = false) ∧ ∀ c ∈ cs.getLast?, isBlank c = false

theorem IsTrimmed.lowerFrom {cs : List Char} (h : IsTrimmed cs) (before : List Char) :
    IsTrimmed (lowerFrom before cs) := by
  constructor
  · cases cs with
    | nil => exact fun c hc => absurd hc (Option.not_mem_none c)
    | cons c cs =>
      obtain ⟨hne, hform⟩ := smallForm_of_not_isBlank (h.1 c rfl) before cs
      rw [lowerFrom_cons, List.head?_append_of_ne_nil _ hne]
      exact fun d hd => hform d (List.mem_of_head? hd)
  · rcases List.eq_nil_or_concat cs with rfl | ⟨start, c, hcs⟩
    · exact fun c hc => absurd hc (Option.not_mem_none c)
    · rw [List.concat_eq_append] at hcs
      subst hcs
      obtain ⟨start', before', hlast⟩ := exists_lowerFrom_concat before start c
      obtain ⟨hne, hform⟩ := smallForm_of_not_isBlank (h.2 c List.getLast?_concat) before' []
      rw [hlast, List.getLast?_append_of_ne_nil _ hne]
      exact fun d hd => hform d (List.mem_of_getLast? hd)

theorem IsTrimmed.trimEnd_append {cs : List Char} (h : IsTrimmed cs) {trail : List Char}
    (htrail : ∀ c ∈ trail, isBlank c = true) : trimEnd (cs ++ trail) = cs := by
  have hdrop : (cs ++ trail).reverse.dropWhile isBlank = cs.reverse.dropWhile isBlank := by
    rw [List.reverse_append]
    exact List.dropWhile_append_of_pos fun c hc => htrail c (List.mem_reverse.1 hc)
  rw [trimEnd, hdrop]
  rcases List.eq_nil_or_concat cs with rfl | ⟨start, c, hcs⟩
  · rfl
  · rw [List.concat_eq_append] at hcs
    subst hcs
    rw [List.reverse_concat, List.dropWhile_cons_of_neg (by simp [h.2 c List.getLast?_concat]),
      ← List.reverse_concat, List.reverse_reverse]

/-- Blanks around a text without blanks at its ends are dropped, and nothing else is. -/
theorem IsTrimmed.trim_append {cs : List Char} (h : IsTrimmed cs) {lead trail : List Char}
    (hlead : ∀ c ∈ lead, isBlank c = true) (htrail : ∀ c ∈ trail, isBlank c = true) :
    trimEnd (trimStart (lead ++ (cs ++ trail))) = cs := by
  rw [trimStart, List.dropWhile_append_of_pos hlead]
  cases cs with
  | nil =>
    rw [List.nil_append, List.dropWhile_eq_nil_iff.2 htrail]
    rfl
  | cons c cs =>
    rw [List.cons_append, List.dropWhile_cons_of_neg (by simp [h.1 c rfl]), ← List.cons_append]
    exact h.trimEnd_append htrail

theorem IsTrimmed.toList_trim {s : String} {lead mid trail : List Char} (h : IsTrimmed mid)
    (hlead : ∀ c ∈ lead, isBlank c = true) (htrail : ∀ c ∈ trail, isBlank c = true)
    (hs : s.toList = lead ++ (mid ++ trail)) : (trim s).toList = mid := by
  rw [trim, String.toList_ofList, hs, h.trim_append hlead htrail]

theorem not_isBlank_of_head? {cs : List Char} {c : Char}
    (h : c ∈ (cs.dropWhile isBlank).head?) : isBlank c = false := by
  rw [← List.find?_not_eq_head?_dropWhile] at h
  simpa using List.find?_some h

/-- A text is what is left of it between blanks. -/
theorem exists_eq_trimmed (cs : List Char) :
    ∃ lead mid trail, cs = lead ++ (mid ++ trail) ∧ IsTrimmed mid ∧
      (∀ c ∈ lead, isBlank c = true) ∧ ∀ c ∈ trail, isBlank c = true := by
  have hstart : cs.takeWhile isBlank ++ trimStart cs = cs := List.takeWhile_append_dropWhile
  have hend : trimEnd (trimStart cs) ++ ((trimStart cs).reverse.takeWhile isBlank).reverse =
      trimStart cs := by
    rw [trimEnd, ← List.reverse_append, List.takeWhile_append_dropWhile, List.reverse_reverse]
  refine ⟨_, _, _, (hend.symm ▸ hstart).symm, ⟨?_, ?_⟩, fun c hc => List.mem_takeWhile_imp hc,
    fun c hc => List.mem_takeWhile_imp (List.mem_reverse.1 hc)⟩
  · intro c hc
    have hhead : c ∈ (trimStart cs).head? := by
      rw [← hend]
      exact List.mem_head?_append_of_mem_head? hc
    exact not_isBlank_of_head? hhead
  · intro c hc
    rw [trimEnd, List.getLast?_reverse] at hc
    exact not_isBlank_of_head? hc

/-- **It makes no difference whether blanks are dropped before or after.** -/
theorem lowercase_trim (s : String) : lowercase (trim s) = trim (lowercase s) := by
  obtain ⟨lead, mid, trail, hs, hmid, hlead, htrail⟩ := exists_eq_trimmed s.toList
  have htrim : (trim s).toList = mid := hmid.toList_trim hlead htrail hs
  have hlower : (lowercase s).toList = lead ++ (lowerFrom [] mid ++ trail) := by
    rw [lowercase, String.toList_ofList, hs, lowerFrom_blanks_append hlead,
      lowerFrom_append_blanks htrail, List.append_nil]
    have hbefore := lowerFrom_before_append_blanks
      (fun c hc => hlead c (List.mem_reverse.1 hc)) [] mid
    rw [List.nil_append] at hbefore
    rw [hbefore]
  have hright : trim (lowercase s) = String.ofList (lowerFrom [] mid) := by
    rw [trim, hlower, (hmid.lowerFrom []).trim_append hlead htrail]
  rw [hright, lowercase, htrim]

/-- Texts that differ only in case do so without the blanks at their ends. -/
theorem lowercase_trim_congr {s t : String} (h : lowercase s = lowercase t) :
    lowercase (trim s) = lowercase (trim t) := by
  rw [lowercase_trim, lowercase_trim, h]

end NetDelegate
