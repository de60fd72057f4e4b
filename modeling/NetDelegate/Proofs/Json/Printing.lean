/-
  NetDelegate/Proofs/Json/Printing.lean
  =====================================
  **What is printed is a text of the grammar.**  A string is printed as marks that stand for it
  (`exists_marks_quoted`): quotes, backslashes and control characters as escapes, all other
  characters as the bytes that they have.
-/
import NetDelegate.Json.Printer
import NetDelegate.Proofs.Json.Outline
import NetDelegate.Proofs.Text.Utf8

namespace NetDelegate.Json

/-- The characters are marks that stand for these bytes, whatever marks follow. -/
def Spells (cs : List Char) (bytes : Bytes) : Prop :=
  ∃ marks, Utf8.encode cs = spelled marks ∧
    ∀ more, meaning? (marks ++ more) = (meaning? more).map (bytes ++ ·)

theorem spells_nil : Spells [] [] := by
  refine ⟨[], rfl, ?_⟩
  intro more
  rw [List.nil_append]
  cases meaning? more with
  | none => rfl
  | some bytes => rfl

theorem Spells.append {cs ds : List Char} {as bs : Bytes} (hcs : Spells cs as)
    (hds : Spells ds bs) : Spells (cs ++ ds) (as ++ bs) := by
  obtain ⟨marks, hmarks, hmeans⟩ := hcs
  obtain ⟨marks', hmarks', hmeans'⟩ := hds
  refine ⟨marks ++ marks', ?_, ?_⟩
  · rw [Utf8.encode_append, hmarks, hmarks', spelled_append]
  · intro more
    rw [List.append_assoc, hmeans, hmeans', Option.map_map]
    congr 1
    funext bytes
    exact (List.append_assoc as bs bytes).symm

/-! ### Escapes -/

theorem spells_short {b : UInt8} {c d : Char} (hc : shortEscape? b = some c)
    (hd : Utf8.encode ['\\', d] = [ascii '\\', b]) : Spells ['\\', d] (Utf8.encodeChar c) :=
  ⟨[.short b c hc], hd, fun _ => rfl⟩

/-- The digits of a control character. -/
theorem hexFour?_hexDigit : ∀ n < 0x20, hexFour? (ascii '0') (ascii '0')
    (ascii (hexDigit (n / 16))) (ascii (hexDigit (n % 16))) = some n := by decide

theorem encode_control : ∀ n < 0x20,
    Utf8.encode ['\\', 'u', '0', '0', hexDigit (n / 16), hexDigit (n % 16)] =
      [ascii '\\', ascii 'u', ascii '0', ascii '0', ascii (hexDigit (n / 16)),
        ascii (hexDigit (n % 16))] := by decide

theorem spells_code {c : Char} (h : c.toNat < 0x20) :
    Spells ['\\', 'u', '0', '0', hexDigit (c.toNat / 16), hexDigit (c.toNat % 16)]
      (Utf8.encodeChar c) := by
  have htrailing : isTrailing c.toNat = false := by
    simp only [isTrailing, Bool.and_eq_false_iff, decide_eq_false_iff_not]
    omega
  have hleading : isLeading c.toNat = false := by
    simp only [isLeading, Bool.and_eq_false_iff, decide_eq_false_iff_not]
    omega
  refine ⟨[.code _ _ _ _ c.toNat (hexFour?_hexDigit c.toNat h)], ?_, ?_⟩
  · exact encode_control c.toNat h
  · intro more
    rw [List.singleton_append, meaning?.eq_def]
    simp only [htrailing, hleading, Bool.false_eq_true, if_false, Char.ofNat_toNat]

/-! ### Characters as they are -/

theorem exists_marks_of_unescaped {bytes : Bytes} (h : ∀ b ∈ bytes, isUnescaped b = true) :
    ∃ marks, bytes = spelled marks ∧
      ∀ more, meaning? (marks ++ more) = (meaning? more).map (bytes ++ ·) := by
  induction bytes with
  | nil => exact spells_nil
  | cons b bytes ih =>
    obtain ⟨hb, hbytes⟩ := List.forall_mem_cons.1 h
    obtain ⟨marks, hmarks, hmeans⟩ := ih hbytes
    refine ⟨.byte b hb :: marks, ?_, ?_⟩
    · rw [spelled_cons, ← hmarks]
      rfl
    · intro more
      rw [List.cons_append, meaning?, hmeans, Option.map_map]
      rfl

theorem isUnescaped_ofNat {n : Nat} (hprintable : 0x20 ≤ n) (hquote : n ≠ 34)
    (hbackslash : n ≠ 92) (hn : n < 256) : isUnescaped (UInt8.ofNat n) = true := by
  have hvalue := Utf8.toNat_ofNat_lt hn
  have hne : ∀ c : Char, c.toNat < 256 → n ≠ c.toNat → UInt8.ofNat n ≠ ascii c := by
    intro c hc hother hsame
    have hcode := congrArg UInt8.toNat hsame
    rw [hvalue, ascii, Utf8.toNat_ofNat_lt hc] at hcode
    exact hother hcode
  have hle : (0x20 : UInt8) ≤ UInt8.ofNat n := by
    rw [UInt8.le_iff_toNat_le, hvalue]
    exact hprintable
  rw [isUnescaped, decide_eq_true (hne '"' (by decide) hquote),
    decide_eq_true (hne '\\' (by decide) hbackslash), decide_eq_true hle]
  rfl

/-- The bytes of a character that need not be escaped need not be escaped. -/
theorem isUnescaped_of_mem_encodeChar {c : Char} (hquote : c ≠ '"') (hbackslash : c ≠ '\\')
    (hprintable : 0x20 ≤ c.toNat) {b : UInt8} (hb : b ∈ Utf8.encodeChar c) :
    isUnescaped b = true := by
  rcases Utf8.mem_encodeChar hb with ⟨hascii, rfl⟩ | hbeyond
  · apply isUnescaped_ofNat hprintable _ _ (by omega)
    · intro hcode
      exact hquote (Char.toNat_inj.1 hcode)
    · intro hcode
      exact hbackslash (Char.toNat_inj.1 hcode)
  · rw [← UInt8.ofNat_toNat (x := b)]
    exact isUnescaped_ofNat (by omega) (by omega) (by omega) b.toNat_lt

/-! ### Strings -/

/-- A character is printed as marks that stand for it. -/
theorem spells_escape (c : Char) : Spells (escape c) (Utf8.encodeChar c) := by
  have hshort : ∀ n (d : Char), c.toNat = n →
      shortEscape? (ascii d) = some (Char.ofNat n) →
      Utf8.encode ['\\', d] = [ascii '\\', ascii d] → Spells ['\\', d] (Utf8.encodeChar c) := by
    rintro n d rfl hd hbytes
    rw [Char.ofNat_toNat] at hd
    exact spells_short hd hbytes
  unfold escape
  split
  · next hc => exact spells_short (b := ascii '"') (by rw [hc]; decide) (by decide)
  · next hquote =>
    split
    · next hc => exact spells_short (b := ascii '\\') (by rw [hc]; decide) (by decide)
    · next hbackslash =>
      split
      · next hc => exact hshort 8 'b' hc (by decide) (by decide)
      · split
        · next hc => exact hshort 9 't' hc (by decide) (by decide)
        · split
          · next hc => exact hshort 10 'n' hc (by decide) (by decide)
          · split
            · next hc => exact hshort 12 'f' hc (by decide) (by decide)
            · split
              · next hc => exact hshort 13 'r' hc (by decide) (by decide)
              · split
                · next hcontrol => exact spells_code hcontrol
                · next hprintable =>
                  obtain ⟨marks, hmarks, hmeans⟩ := exists_marks_of_unescaped
                    fun b => isUnescaped_of_mem_encodeChar hquote hbackslash (by omega)
                  refine ⟨marks, ?_, hmeans⟩
                  rw [← hmarks, Utf8.encode_cons, Utf8.encode_nil, List.append_nil]

theorem spells_flatMap_escape (cs : List Char) : Spells (cs.flatMap escape) (Utf8.encode cs) := by
  induction cs with
  | nil => exact spells_nil
  | cons c cs ih =>
    rw [List.flatMap_cons, Utf8.encode_cons]
    exact (spells_escape c).append ih

/-- **A string is printed as marks that stand for it.** -/
theorem exists_marks_quoted (s : String) :
    ∃ marks, Utf8.encode (quoted s) = (Outline.string marks).text ∧ textOf? marks = some s := by
  obtain ⟨marks, hmarks, hmeans⟩ := spells_flatMap_escape s.toList
  refine ⟨marks, ?_, ?_⟩
  · rw [quoted, Utf8.encode_cons, Utf8.encode_append, hmarks]
    rfl
  · have hmeaning := hmeans []
    rw [List.append_nil, meaning?, Option.map_some, List.append_nil] at hmeaning
    rw [textOf?, hmeaning, Option.bind_some, Bytes.text?, Utf8.decode?_encode, Option.map_some,
      String.ofList_toList]

/-! ### Objects -/

/-- One member without blanks. -/
def Outline.lone (marks : List Mark) (v : Outline .value) : Outline .members :=
  .lastMember ⟨noBlanks, marks, noBlanks⟩ noBlanks v noBlanks

/-- An object of one member is printed as that member, without blanks. -/
theorem bytes_object_singleton {name : String} {marks : List Mark} {v : Json}
    {o : Outline .value} (hname : Utf8.encode (quoted name) = (Outline.string marks).text)
    (hv : v.bytes = o.text) :
    bytes (.object [(name, v)]) = (Outline.object (.lone marks o)).text := by
  have hcolon : Utf8.encodeChar ':' = [ascii ':'] := by decide
  have hclose : Utf8.encode ['\x7d'] = [ascii '\x7d'] := by decide
  have hopen : Utf8.encodeChar '\x7b' = [ascii '\x7b'] := by decide
  rw [bytes] at hv
  rw [bytes, print, printMembers, printMembers, commaSeparated, Utf8.encode_cons,
    Utf8.encode_append, Utf8.encode_append, Utf8.encode_cons, hname, hv, hcolon, hclose, hopen]
  simp only [Outline.lone, Outline.text, Name.text, noBlanks, List.nil_append, List.cons_append,
    List.append_assoc]

end NetDelegate.Json
