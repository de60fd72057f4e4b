/-
  NetDelegate/Proofs/Text/Utf8.lean
  =================================
  **Bytes that are text are the text's own bytes.**  `Utf8.pieces` is exact: a character is cut
  out only where the bytes are the form that `encodeChar` gives that character, since overlong
  forms, surrogates and numbers past U+10FFFF are ill-formed pieces.  So bytes read as a text if
  and only if they are what is written for it.

  The code of an ASCII character is among the bytes of a text, or the last of them, just when the
  character is (`code_mem_encode_iff`, `getLast?_encode_iff`).
-/
import NetDelegate.Text.Utf8

namespace NetDelegate

namespace Utf8

/-! ### One character, read and written again -/

theorem toNat_ofNat_of_valid {n : Nat} (h : n.isValidChar) : (Char.ofNat n).toNat = n := by
  unfold Char.ofNat
  rw [dif_pos h]
  unfold Char.ofNatAux Char.toNat
  simp

theorem ofNat_eq_of_toNat {a : UInt8} {n : Nat} (h : n = a.toNat) : UInt8.ofNat n = a := by
  rw [h, UInt8.ofNat_toNat]

theorem toNat_of_isContinuation {b : UInt8} (hb : isContinuation b = true) :
    b.toNat = 128 + payload b := by
  have := isContinuation_iff.1 hb
  simp only [payload]
  omega

theorem payload_lt (b : UInt8) : payload b < 64 := Nat.mod_lt _ (by decide)

/-- A byte that has to be at least `low` after one first byte, and at most `high` after another,
    is a continuation byte whichever comes before it. -/
theorem bounds_of_second {a b first last low high : UInt8} (hne : first ≠ last)
    (hlow : 0x80 ≤ low) (hhigh : high ≤ 0xBF)
    (hb : (if a = first then low ≤ b && b ≤ 0xBF else if a = last then 0x80 ≤ b && b ≤ high
      else isContinuation b) = true) :
    isContinuation b = true ∧ (a = first → low ≤ b) ∧ (a = last → b ≤ high) := by
  rw [isContinuation_iff]
  simp only [UInt8.le_iff_toNat_le, UInt8.reduceToNat] at hlow hhigh hb ⊢
  split at hb
  · next hfirst =>
    simp only [Bool.and_eq_true, decide_eq_true_eq] at hb
    exact ⟨by omega, fun _ => hb.1, fun hlast => absurd (hfirst.symm.trans hlast) hne⟩
  · next hfirst =>
    split at hb
    · simp only [Bool.and_eq_true, decide_eq_true_eq] at hb
      exact ⟨by omega, fun h => absurd h hfirst, fun _ => hb.2⟩
    · next hlast =>
      exact ⟨isContinuation_iff.1 hb, fun h => absurd h hfirst, fun h => absurd h hlast⟩

/-- The bytes after `0xE0` and `0xED` are bounded so that no form is overlong and none is a
    surrogate's. -/
theorem bounds_of_isSecondOfThree {a b : UInt8} (hb : isSecondOfThree a b = true) :
    isContinuation b = true ∧ (a.toNat = 0xE0 → 32 ≤ payload b) ∧
      (a.toNat = 0xED → payload b < 32) := by
  obtain ⟨hcont, hoverlong, hsurrogate⟩ := bounds_of_second (by decide) (by decide) (by decide) hb
  have hbyte := toNat_of_isContinuation hcont
  simp only [UInt8.le_iff_toNat_le, UInt8.reduceToNat] at hoverlong hsurrogate
  refine ⟨hcont, fun h => ?_, fun h => ?_⟩
  · have := hoverlong (UInt8.toNat_inj.1 h)
    omega
  · have := hsurrogate (UInt8.toNat_inj.1 h)
    omega

/-- The bytes after `0xF0` and `0xF4` are bounded so that no form is overlong and none is past
    U+10FFFF. -/
theorem bounds_of_isSecondOfFour {a b : UInt8} (hb : isSecondOfFour a b = true) :
    isContinuation b = true ∧ (a.toNat = 0xF0 → 16 ≤ payload b) ∧
      (a.toNat = 0xF4 → payload b < 16) := by
  obtain ⟨hcont, hoverlong, hlast⟩ := bounds_of_second (by decide) (by decide) (by decide) hb
  have hbyte := toNat_of_isContinuation hcont
  simp only [UInt8.le_iff_toNat_le, UInt8.reduceToNat] at hoverlong hlast
  refine ⟨hcont, fun h => ?_, fun h => ?_⟩
  · have := hoverlong (UInt8.toNat_inj.1 h)
    omega
  · have := hlast (UInt8.toNat_inj.1 h)
    omega

theorem encodeChar_one {a : UInt8} (ha : a < 0x80) : encodeChar (Char.ofNat a.toNat) = [a] := by
  have hlt : a.toNat < 0x80 := UInt8.lt_iff_toNat_lt.1 ha
  have hn : (Char.ofNat a.toNat).toNat = a.toNat := toNat_ofNat_of_valid (.inl (by omega))
  simp only [encodeChar, hn]
  rw [if_pos hlt, UInt8.ofNat_toNat]

theorem encodeChar_two {a b : UInt8} (ha : 0xC2 ≤ a ∧ a ≤ 0xDF) (hb : isContinuation b = true) :
    encodeChar (Char.ofNat (a.toNat % 32 * 64 + payload b)) = [a, b] := by
  have hlow := UInt8.le_iff_toNat_le.1 ha.1
  have hhigh := UInt8.le_iff_toNat_le.1 ha.2
  have hbyte := toNat_of_isContinuation hb
  have hpayload := payload_lt b
  simp only [UInt8.reduceToNat] at hlow hhigh
  generalize hnumber : a.toNat % 32 * 64 + payload b = n
  have hn : (Char.ofNat n).toNat = n := toNat_ofNat_of_valid (.inl (by omega))
  simp only [encodeChar, hn]
  rw [if_neg (by omega), if_pos (by omega), ofNat_eq_of_toNat (a := a) (by omega),
    ofNat_eq_of_toNat (a := b) (by omega)]

theorem encodeChar_three {a b c : UInt8} (ha : 0xE0 ≤ a ∧ a ≤ 0xEF)
    (hb : isSecondOfThree a b = true) (hc : isContinuation c = true) :
    encodeChar (Char.ofNat (a.toNat % 16 * 4096 + payload b * 64 + payload c)) = [a, b, c] := by
  have hlow := UInt8.le_iff_toNat_le.1 ha.1
  have hhigh := UInt8.le_iff_toNat_le.1 ha.2
  obtain ⟨hcont, hoverlong, hsurrogate⟩ := bounds_of_isSecondOfThree hb
  have hbbyte := toNat_of_isContinuation hcont
  have hcbyte := toNat_of_isContinuation hc
  have hbpayload := payload_lt b
  have hcpayload := payload_lt c
  simp only [UInt8.reduceToNat] at hlow hhigh
  generalize hnumber : a.toNat % 16 * 4096 + payload b * 64 + payload c = n
  have hvalid : n.isValidChar := by
    show n < 0xD800 ∨ 0xDFFF < n ∧ n < 0x110000
    omega
  simp only [encodeChar, toNat_ofNat_of_valid hvalid]
  rw [if_neg (by omega), if_neg (by omega), if_pos (by omega),
    ofNat_eq_of_toNat (a := a) (by omega), ofNat_eq_of_toNat (a := b) (by omega),
    ofNat_eq_of_toNat (a := c) (by omega)]

theorem encodeChar_four {a b c d : UInt8} (ha : 0xF0 ≤ a ∧ a ≤ 0xF4)
    (hb : isSecondOfFour a b = true) (hc : isContinuation c = true)
    (hd : isContinuation d = true) :
    encodeChar (Char.ofNat (a.toNat % 8 * 262144 + payload b * 4096 + payload c * 64 + payload d))
      = [a, b, c, d] := by
  have hlow := UInt8.le_iff_toNat_le.1 ha.1
  have hhigh := UInt8.le_iff_toNat_le.1 ha.2
  obtain ⟨hcont, hoverlong, hlast⟩ := bounds_of_isSecondOfFour hb
  have hbbyte := toNat_of_isContinuation hcont
  have hcbyte := toNat_of_isContinuation hc
  have hdbyte := toNat_of_isContinuation hd
  have hbpayload := payload_lt b
  have hcpayload := payload_lt c
  have hdpayload := payload_lt d
  simp only [UInt8.reduceToNat] at hlow hhigh
  generalize hnumber :
    a.toNat % 8 * 262144 + payload b * 4096 + payload c * 64 + payload d = n
  have hvalid : n.isValidChar := by
    show n < 0xD800 ∨ 0xDFFF < n ∧ n < 0x110000
    omega
  simp only [encodeChar, toNat_ofNat_of_valid hvalid]
  rw [if_neg (by omega), if_neg (by omega), if_neg (by omega),
    ofNat_eq_of_toNat (a := a) (by omega), ofNat_eq_of_toNat (a := b) (by omega),
    ofNat_eq_of_toNat (a := c) (by omega), ofNat_eq_of_toNat (a := d) (by omega)]

/-! ### The bytes of a character -/

/-- The form of an ASCII character is its code; all bytes of a longer form are beyond ASCII. -/
theorem mem_encodeChar {c : Char} {b : UInt8} (hb : b ∈ encodeChar c) :
    (c.toNat < 0x80 ∧ b = UInt8.ofNat c.toNat) ∨ 0x80 ≤ b.toNat := by
  have hscalar := scalar_range c
  have hbeyond : ∀ n, 0x80 ≤ n → n < 256 → 0x80 ≤ (UInt8.ofNat n).toNat := by
    intro n hlow hhigh
    rw [toNat_ofNat_lt hhigh]
    exact hlow
  unfold encodeChar at hb
  dsimp only at hb
  split at hb
  · next hascii => exact .inl ⟨hascii, List.mem_singleton.1 hb⟩
  · right
    split at hb
    · simp only [List.mem_cons, List.not_mem_nil, or_false] at hb
      rcases hb with rfl | rfl
      · exact hbeyond _ (by omega) (by omega)
      · exact hbeyond _ (by omega) (by omega)
    · split at hb
      · simp only [List.mem_cons, List.not_mem_nil, or_false] at hb
        rcases hb with rfl | rfl | rfl
        · exact hbeyond _ (by omega) (by omega)
        · exact hbeyond _ (by omega) (by omega)
        · exact hbeyond _ (by omega) (by omega)
      · simp only [List.mem_cons, List.not_mem_nil, or_false] at hb
        rcases hb with rfl | rfl | rfl | rfl
        · exact hbeyond _ (by omega) (by omega)
        · exact hbeyond _ (by omega) (by omega)
        · exact hbeyond _ (by omega) (by omega)
        · exact hbeyond _ (by omega) (by omega)

theorem encodeChar_ne_nil (c : Char) : encodeChar c ≠ [] := by
  unfold encodeChar
  dsimp only
  repeat' split
  all_goals exact List.cons_ne_nil _ _

section
variable {c : Char} (hc : c.toNat < 0x80)
include hc

/-- The code of an ASCII character stands for that character only. -/
theorem eq_of_code_mem_encodeChar {d : Char} (h : UInt8.ofNat c.toNat ∈ encodeChar d) : d = c := by
  have hcode : (UInt8.ofNat c.toNat).toNat = c.toNat := toNat_ofNat_lt (by omega)
  rcases mem_encodeChar h with ⟨hd, hsame⟩ | hbeyond
  · have hnat := congrArg UInt8.toNat hsame
    rw [hcode, toNat_ofNat_lt (by omega)] at hnat
    exact (Char.toNat_inj.1 hnat).symm
  · omega

theorem code_mem_encode_iff {cs : List Char} : UInt8.ofNat c.toNat ∈ encode cs ↔ c ∈ cs := by
  have hself : encodeChar c = [UInt8.ofNat c.toNat] := if_pos hc
  rw [encode, List.mem_flatMap]
  constructor
  · rintro ⟨d, hd, hmem⟩
    exact eq_of_code_mem_encodeChar hc hmem ▸ hd
  · intro h
    exact ⟨c, h, hself ▸ List.mem_singleton_self _⟩

/-- A text ends in an ASCII character just when its bytes end in the code of it. -/
theorem getLast?_encode_iff {cs : List Char} :
    (encode cs).getLast? = some (UInt8.ofNat c.toNat) ↔ cs.getLast? = some c := by
  have hself : encodeChar c = [UInt8.ofNat c.toNat] := if_pos hc
  constructor
  · intro h
    rcases List.eq_nil_or_concat cs with rfl | ⟨front, d, rfl⟩
    · cases h
    · have hne : encodeChar d ≠ [] := encodeChar_ne_nil d
      rw [List.concat_eq_append, encode_append, encode_cons, encode_nil, List.append_nil,
        List.getLast?_append, List.getLast?_eq_some_getLast hne, Option.some_or,
        Option.some.injEq] at h
      have hmem : UInt8.ofNat c.toNat ∈ encodeChar d := h ▸ List.getLast_mem hne
      rw [List.concat_eq_append, List.getLast?_concat, eq_of_code_mem_encodeChar hc hmem]
  · intro h
    obtain ⟨front, rfl⟩ := List.getLast?_eq_some_iff.1 h
    rw [encode_append, encode_cons, hself, encode_nil, List.append_nil, List.getLast?_concat]

end

/-! ### A whole text -/

theorem encode_of_cons {front rest : Bytes} {c : Char} {cs : List Char}
    (hc : encodeChar c = front) (h : some c :: pieces rest = cs.map some)
    (ih : ∀ {ds : List Char}, pieces rest = ds.map some → encode ds = rest) :
    encode cs = front ++ rest := by
  obtain ⟨d, ds, rfl, hd, hds⟩ := List.map_eq_cons_iff.1 h.symm
  rw [encode_cons, Option.some.inj hd, hc, ih hds.symm]

theorem not_none_cons_eq {ps : List (Option Char)} {cs : List Char} :
    none :: ps ≠ cs.map some := by
  cases cs <;> simp

theorem encode_of_pieces {bs : Bytes} {cs : List Char} (h : pieces bs = cs.map some) :
    encode cs = bs := by
  fun_induction pieces bs generalizing cs
  case case1 =>
    obtain rfl := List.map_eq_nil_iff.1 h.symm
    rfl
  case case2 ha ih => exact encode_of_cons (encodeChar_one ha) h ih
  case case4 ha hb ih => exact encode_of_cons (encodeChar_two ha hb) h ih
  case case7 ha hb _ _ hc ih => exact encode_of_cons (encodeChar_three ha hb hc) h ih
  case case12 ha hb _ hc _ _ hd ih => exact encode_of_cons (encodeChar_four ha hb hc hd) h ih
  -- everywhere else the first piece is ill formed
  all_goals exact absurd h not_none_cons_eq

theorem mapM_id_eq_some_iff {ps : List (Option Char)} {cs : List Char} :
    ps.mapM id = some cs ↔ ps = cs.map some := by
  induction ps generalizing cs with
  | nil => cases cs <;> simp
  | cons p ps ih =>
    rw [List.mapM_cons]
    cases p with
    | none => cases cs <;> simp
    | some c =>
      cases cs with
      | nil => simp [Option.bind_eq_some_iff]
      | cons d ds =>
        simp only [id, Option.bind_eq_bind, Option.bind_some, Option.bind_eq_some_iff,
          List.map_cons, List.cons.injEq, Option.some.injEq, Option.pure_def, ← ih]
        constructor
        · rintro ⟨tail, htail, rfl, rfl⟩
          exact ⟨rfl, htail⟩
        · rintro ⟨rfl, htail⟩
          exact ⟨ds, htail, rfl, rfl⟩

theorem decode?_eq_some_iff {bs : Bytes} {cs : List Char} :
    decode? bs = some cs ↔ bs = encode cs := by
  rw [decode?, mapM_id_eq_some_iff]
  constructor
  · intro h
    exact (encode_of_pieces h).symm
  · rintro rfl
    exact pieces_encode cs

end Utf8

/-- Bytes read as a text if and only if they are its bytes. -/
theorem Bytes.text?_eq_some_iff {bs : Bytes} {s : String} :
    Bytes.text? bs = some s ↔ bs = utf8 s := by
  rw [Bytes.text?, Option.map_eq_some_iff, utf8]
  constructor
  · rintro ⟨cs, hcs, rfl⟩
    rw [String.toList_ofList]
    exact Utf8.decode?_eq_some_iff.1 hcs
  · intro h
    exact ⟨s.toList, Utf8.decode?_eq_some_iff.2 h, String.ofList_toList⟩

end NetDelegate
