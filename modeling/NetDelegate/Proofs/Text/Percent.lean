/-
  NetDelegate/Proofs/Text/Percent.lean
  ====================================
  **Percent encoding is undone by decoding,** for every class of kept characters that are ASCII
  and leave the percent sign out (`decode_encode`).  So a text is told by its written form
  (`encode_inj`), and a written form has, besides kept characters of the text, only percent signs
  and hexadecimal digits (`mem_encode`).
-/
import NetDelegate.Text.Percent

namespace NetDelegate.Percent

/-! ### Digits -/

theorem hexValue?_hexDigit : ∀ n < 16, hexValue? (hexDigit n) = some n := by decide

theorem toNat_hexDigit_lt : ∀ n < 16, (hexDigit n).toNat < 0x80 := by decide

theorem encodeChar_of_ascii {c : Char} (h : c.toNat < 0x80) :
    Utf8.encodeChar c = [UInt8.ofNat c.toNat] := if_pos h

theorem digit?_ofNat_hexDigit {n : Nat} (h : n < 16) :
    digit? (UInt8.ofNat (hexDigit n).toNat) = some n := by
  have hlt := toNat_hexDigit_lt n h
  rw [digit?, Utf8.toNat_ofNat_lt (by omega), Char.ofNat_toNat]
  exact hexValue?_hexDigit n h

/-! ### One escape and one character -/

theorem decode_cons_of_ne {a : UInt8} (h : a.toNat ≠ 0x25) (rest : Bytes) :
    decode (a :: rest) = a :: decode rest := by
  rw [decode.eq_def]
  simp only [if_neg h]

/-- An escape stands for its byte, whatever follows. -/
theorem decode_escape (b : UInt8) (rest : Bytes) :
    decode (Utf8.encode (escape b) ++ rest) = b :: decode rest := by
  have hb := b.toNat_lt
  have hhigh : b.toNat / 16 < 16 := by omega
  have hlow : b.toNat % 16 < 16 := by omega
  have hmark : Utf8.encodeChar '%' = [0x25] := by decide
  have hbytes : Utf8.encode (escape b) =
      [0x25, UInt8.ofNat (hexDigit (b.toNat / 16)).toNat,
        UInt8.ofNat (hexDigit (b.toNat % 16)).toNat] := by
    simp only [escape, Utf8.encode_cons, Utf8.encode_nil, hmark,
      encodeChar_of_ascii (toNat_hexDigit_lt _ hhigh),
      encodeChar_of_ascii (toNat_hexDigit_lt _ hlow), List.cons_append, List.nil_append]
  have hvalue : b.toNat / 16 * 16 + b.toNat % 16 = b.toNat := by omega
  have hpercent : (0x25 : UInt8).toNat = 0x25 := rfl
  rw [hbytes, List.cons_append, List.cons_append, List.cons_append, List.nil_append,
    decode.eq_def]
  simp only [hpercent, if_true, digit?_ofNat_hexDigit hhigh, digit?_ofNat_hexDigit hlow, hvalue,
    UInt8.ofNat_toNat]

theorem decode_escapes (bs rest : Bytes) :
    decode (Utf8.encode (bs.flatMap escape) ++ rest) = bs ++ decode rest := by
  induction bs with
  | nil => rfl
  | cons b bs ih =>
    rw [List.flatMap_cons, Utf8.encode_append, List.append_assoc, decode_escape, ih]
    rfl

/-- The characters that stand for themselves are ASCII, without the percent sign. -/
def IsClass (keeps : Char → Bool) : Prop := ∀ c, keeps c = true → c.toNat < 0x80 ∧ c ≠ '%'

section
variable {keeps : Char → Bool}

theorem decode_encodeChar (hkeeps : IsClass keeps) (c : Char) (rest : Bytes) :
    decode (Utf8.encode (encodeChar keeps c) ++ rest) = Utf8.encodeChar c ++ decode rest := by
  unfold encodeChar
  split
  · next hc =>
    obtain ⟨hascii, hne⟩ := hkeeps c hc
    have hbyte : (UInt8.ofNat c.toNat).toNat ≠ 0x25 := by
      rw [Utf8.toNat_ofNat_lt (by omega)]
      intro hcode
      exact hne (Char.toNat_inj.1 hcode)
    rw [Utf8.encode_cons, Utf8.encode_nil, encodeChar_of_ascii hascii]
    exact decode_cons_of_ne hbyte rest
  · exact decode_escapes _ rest

/-- **Decoding undoes encoding.** -/
theorem decode_encode (hkeeps : IsClass keeps) (cs : List Char) :
    decode (Utf8.encode (encode keeps cs)) = Utf8.encode cs := by
  induction cs with
  | nil => rfl
  | cons c cs ih =>
    have hcons : encode keeps (c :: cs) = encodeChar keeps c ++ encode keeps cs := rfl
    rw [hcons, Utf8.encode_append, decode_encodeChar hkeeps, ih, Utf8.encode_cons]

theorem eq_of_decode_encode (hkeeps : IsClass keeps) {cs ds : List Char}
    (h : decode (Utf8.encode (encode keeps cs)) = Utf8.encode ds) : cs = ds := by
  rw [decode_encode hkeeps] at h
  exact Utf8.encode_inj.1 h

theorem encode_inj (hkeeps : IsClass keeps) {cs ds : List Char} :
    encode keeps cs = encode keeps ds ↔ cs = ds := by
  constructor
  · intro h
    refine eq_of_decode_encode hkeeps ?_
    rw [h, decode_encode hkeeps]
  · rintro rfl
    rfl

/-! ### Written forms -/

/-- A text of kept characters is written as it is. -/
theorem encode_of_keeps {cs : List Char} (h : ∀ c ∈ cs, keeps c = true) : encode keeps cs = cs := by
  induction cs with
  | nil => rfl
  | cons c cs ih =>
    have hcons : encode keeps (c :: cs) = encodeChar keeps c ++ encode keeps cs := rfl
    rw [hcons, ih fun d hd => h d (List.mem_cons_of_mem c hd), encodeChar, if_pos (h c List.mem_cons_self)]
    rfl

theorem mem_escape {b : UInt8} {c : Char} (h : c ∈ escape b) :
    c = '%' ∨ (hexValue? c).isSome := by
  have hb := b.toNat_lt
  have hhigh : b.toNat / 16 < 16 := by omega
  have hlow : b.toNat % 16 < 16 := by omega
  simp only [escape, List.mem_cons, List.not_mem_nil, or_false] at h
  rcases h with rfl | rfl | rfl
  · exact .inl rfl
  · exact .inr (by rw [hexValue?_hexDigit _ hhigh]; rfl)
  · exact .inr (by rw [hexValue?_hexDigit _ hlow]; rfl)

/-- The characters of a written form. -/
theorem mem_encode {cs : List Char} {c : Char} (h : c ∈ encode keeps cs) :
    (keeps c = true ∧ c ∈ cs) ∨ c = '%' ∨ (hexValue? c).isSome := by
  obtain ⟨d, hd, hc⟩ := List.mem_flatMap.1 h
  unfold encodeChar at hc
  split at hc
  · next hkeep =>
    rw [List.mem_singleton] at hc
    subst hc
    exact .inl ⟨hkeep, hd⟩
  · obtain ⟨b, -, hb⟩ := List.mem_flatMap.1 hc
    exact .inr (mem_escape hb)

/-- A slash is written only for a slash that is kept. -/
theorem slash_notMem_encode {cs : List Char} (h : keeps '/' = true → '/' ∉ cs) :
    '/' ∉ encode keeps cs := by
  intro hmem
  rcases mem_encode hmem with ⟨hkeep, hcs⟩ | hpercent | hdigit
  · exact h hkeep hcs
  · exact absurd hpercent (by decide)
  · exact absurd hdigit (by decide)

end

/-! ### The class of a segment -/

theorem isClass_segmentKeeps : IsClass segmentKeeps := by
  intro c hc
  simp only [segmentKeeps, graphicBut, isGraphic, Bool.and_eq_true, decide_eq_true_eq,
    Bool.not_eq_true'] at hc
  obtain ⟨⟨-, hle⟩, hexcluded⟩ := hc
  refine ⟨by omega, ?_⟩
  rintro rfl
  exact absurd hexcluded (by decide)

end NetDelegate.Percent
