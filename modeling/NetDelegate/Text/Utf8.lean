/-
  NetDelegate/Text/Utf8.lean
  ==========================
  **Text as bytes.**  Everything the library reads or writes is a list of bytes; text is its
  UTF-8 form.  `Utf8.pieces` cuts a byte list into the characters it spells and the ill-formed
  pieces between them, and both readings of bytes as text are views of it: `decode?` accepts
  only text without ill-formed pieces, `decodeLossy` shows each such piece as U+FFFD.

  `pieces_encode` says that encoded text is cut into exactly its characters, so `decode?` and
  `decodeLossy` both undo `encode`.
-/

namespace NetDelegate

/-- Raw data: files, messages, file names. -/
abbrev Bytes := List UInt8

namespace Utf8

/-! ### Writing -/

/-- The UTF-8 form of one character. -/
def encodeChar (c : Char) : Bytes :=
  let n := c.toNat
  if n < 0x80 then [UInt8.ofNat n]
  else if n < 0x800 then [UInt8.ofNat (0xC0 + n / 64), UInt8.ofNat (0x80 + n % 64)]
  else if n < 0x10000 then
    [UInt8.ofNat (0xE0 + n / 4096), UInt8.ofNat (0x80 + n / 64 % 64), UInt8.ofNat (0x80 + n % 64)]
  else
    [UInt8.ofNat (0xF0 + n / 262144), UInt8.ofNat (0x80 + n / 4096 % 64),
      UInt8.ofNat (0x80 + n / 64 % 64), UInt8.ofNat (0x80 + n % 64)]

/-- The UTF-8 form of a text. -/
def encode (cs : List Char) : Bytes := cs.flatMap encodeChar

/-! ### Reading -/

/-- A byte that continues a character. -/
def isContinuation (b : UInt8) : Bool := 0x80 ≤ b && b ≤ 0xBF

/-- May `b` follow the first byte `a` of a three-byte character?  Overlong forms and
    surrogates are excluded here. -/
def isSecondOfThree (a b : UInt8) : Bool :=
  if a = 0xE0 then 0xA0 ≤ b && b ≤ 0xBF
  else if a = 0xED then 0x80 ≤ b && b ≤ 0x9F
  else isContinuation b

/-- May `b` follow the first byte `a` of a four-byte character?  Overlong forms and numbers
    past U+10FFFF are excluded here. -/
def isSecondOfFour (a b : UInt8) : Bool :=
  if a = 0xF0 then 0x90 ≤ b && b ≤ 0xBF
  else if a = 0xF4 then 0x80 ≤ b && b ≤ 0x8F
  else isContinuation b

/-- The low six bits of a continuation byte. -/
def payload (b : UInt8) : Nat := b.toNat % 64

/-- Cuts bytes into characters (`some c`) and ill-formed pieces (`none`).  A piece is the
    longest start of a character that the next byte does not continue, or one byte that starts
    no character. -/
def pieces : Bytes → List (Option Char)
  | [] => []
  | a :: r₀ =>
    if a < 0x80 then some (Char.ofNat a.toNat) :: pieces r₀
    else match r₀ with
      | [] => [none]
      | b :: r₁ =>
        if 0xC2 ≤ a ∧ a ≤ 0xDF then
          if isContinuation b then
            some (Char.ofNat (a.toNat % 32 * 64 + payload b)) :: pieces r₁
          else none :: pieces (b :: r₁)
        else if 0xE0 ≤ a ∧ a ≤ 0xEF then
          if isSecondOfThree a b then
            match r₁ with
            | [] => [none]
            | c :: r₂ =>
              if isContinuation c then
                some (Char.ofNat (a.toNat % 16 * 4096 + payload b * 64 + payload c)) :: pieces r₂
              else none :: pieces (c :: r₂)
          else none :: pieces (b :: r₁)
        else if 0xF0 ≤ a ∧ a ≤ 0xF4 then
          if isSecondOfFour a b then
            match r₁ with
            | [] => [none]
            | c :: r₂ =>
              if isContinuation c then
                match r₂ with
                | [] => [none]
                | d :: r₃ =>
                  if isContinuation d then
                    some (Char.ofNat (a.toNat % 8 * 262144 + payload b * 4096 + payload c * 64
                      + payload d)) :: pieces r₃
                  else none :: pieces (d :: r₃)
              else none :: pieces (c :: r₂)
          else none :: pieces (b :: r₁)
        else none :: pieces (b :: r₁)

/-- The text that the bytes spell, if they are well formed throughout. -/
def decode? (bs : Bytes) : Option (List Char) := (pieces bs).mapM id

/-- The text that the bytes spell, each ill-formed piece shown as U+FFFD. -/
def decodeLossy (bs : Bytes) : List Char := (pieces bs).map (·.getD '\uFFFD')

/-- The number of bytes before the first ill-formed piece. -/
def textLength (bs : Bytes) : Nat :=
  (((pieces bs).takeWhile Option.isSome).flatMap fun p => p.toList.flatMap encodeChar).length

/-! ### Reading undoes writing -/

theorem encode_nil : encode [] = [] := rfl

theorem encode_cons (c : Char) (cs : List Char) : encode (c :: cs) = encodeChar c ++ encode cs := rfl

theorem encode_append (xs ys : List Char) : encode (xs ++ ys) = encode xs ++ encode ys := by
  simp [encode]

/-- An ASCII text has as many bytes as characters. -/
theorem length_encode_of_ascii {cs : List Char} (h : ∀ c ∈ cs, c.toNat < 0x80) :
    (encode cs).length = cs.length := by
  induction cs with
  | nil => rfl
  | cons c cs ih =>
    have hc : encodeChar c = [UInt8.ofNat c.toNat] := if_pos (h c List.mem_cons_self)
    have hcs := ih fun d hd => h d (List.mem_cons_of_mem c hd)
    rw [encode_cons, hc, List.length_append, hcs, List.length_cons]
    exact Nat.add_comm 1 cs.length

theorem toNat_ofNat_lt {n : Nat} (h : n < 256) : (UInt8.ofNat n).toNat = n := by
  simp [UInt8.toNat_ofNat', Nat.mod_eq_of_lt h]

/-- The numbers of characters leave out the surrogates. -/
theorem scalar_range (c : Char) :
    c.toNat < 0xD800 ∨ (0xDFFF < c.toNat ∧ c.toNat < 0x110000) := c.valid

theorem isContinuation_iff {b : UInt8} : isContinuation b = true ↔ 128 ≤ b.toNat ∧ b.toNat ≤ 191 := by
  simp [isContinuation, UInt8.le_iff_toNat_le]

/-- One encoded character is read back as that character, whatever follows. -/
theorem pieces_encodeChar (c : Char) (rest : Bytes) :
    pieces (encodeChar c ++ rest) = some c :: pieces rest := by
  have hc := scalar_range c
  have hback : Char.ofNat c.toNat = c := Char.ofNat_toNat c
  unfold encodeChar
  generalize c.toNat = n at *
  dsimp only
  split
  · next h1 =>
    have ha : (UInt8.ofNat n).toNat = n := toNat_ofNat_lt (by omega)
    generalize UInt8.ofNat n = a at *
    have e1 : a < 0x80 := by rw [UInt8.lt_iff_toNat_lt, ha]; exact h1
    simp only [List.cons_append, List.nil_append, pieces.eq_def (a :: rest), e1, if_true, ha, hback]
  · next h1 =>
    split
    · next h2 =>
      have ha : (UInt8.ofNat (0xC0 + n / 64)).toNat = 0xC0 + n / 64 := toNat_ofNat_lt (by omega)
      have hb : (UInt8.ofNat (0x80 + n % 64)).toNat = 0x80 + n % 64 := toNat_ofNat_lt (by omega)
      generalize UInt8.ofNat (0xC0 + n / 64) = a at *
      generalize UInt8.ofNat (0x80 + n % 64) = b at *
      have e1 : ¬ a < 0x80 := by rw [UInt8.lt_iff_toNat_lt, ha]; simp; omega
      have e2 : 0xC2 ≤ a ∧ a ≤ 0xDF := by
        rw [UInt8.le_iff_toNat_le, UInt8.le_iff_toNat_le, ha]; simp; omega
      have e3 : isContinuation b = true := isContinuation_iff.2 (by omega)
      have e4 : (192 + n / 64) % 32 * 64 + (128 + n % 64) % 64 = n := by omega
      simp only [List.cons_append, List.nil_append, pieces.eq_def (a :: b :: rest), e1, e2, e3,
        if_true, if_false, and_self, payload, ha, hb, e4, hback]
    · next h2 =>
      split
      · next h3 =>
        have ha : (UInt8.ofNat (0xE0 + n / 4096)).toNat = 0xE0 + n / 4096 := toNat_ofNat_lt (by omega)
        have hb : (UInt8.ofNat (0x80 + n / 64 % 64)).toNat = 0x80 + n / 64 % 64 := toNat_ofNat_lt (by omega)
        have hd : (UInt8.ofNat (0x80 + n % 64)).toNat = 0x80 + n % 64 := toNat_ofNat_lt (by omega)
        generalize UInt8.ofNat (0xE0 + n / 4096) = a at *
        generalize UInt8.ofNat (0x80 + n / 64 % 64) = b at *
        generalize UInt8.ofNat (0x80 + n % 64) = d at *
        have e1 : ¬ a < 0x80 := by rw [UInt8.lt_iff_toNat_lt, ha]; simp; omega
        have e2 : ¬ (0xC2 ≤ a ∧ a ≤ 0xDF) := by
          rw [UInt8.le_iff_toNat_le, UInt8.le_iff_toNat_le, ha]; simp; omega
        have e3 : 0xE0 ≤ a ∧ a ≤ 0xEF := by
          rw [UInt8.le_iff_toNat_le, UInt8.le_iff_toNat_le, ha]; simp; omega
        have e4 : isSecondOfThree a b = true := by
          unfold isSecondOfThree
          split
          · next h => simp [h] at ha; simp [UInt8.le_iff_toNat_le]; omega
          · split
            · next h => simp [h] at ha; simp [UInt8.le_iff_toNat_le]; omega
            · exact isContinuation_iff.2 (by omega)
        have e5 : isContinuation d = true := isContinuation_iff.2 (by omega)
        have e6 : (224 + n / 4096) % 16 * 4096 + (128 + n / 64 % 64) % 64 * 64 + (128 + n % 64) % 64 = n := by
          omega
        simp only [List.cons_append, List.nil_append, pieces.eq_def (a :: b :: d :: rest), e1, e2, e3,
          e4, e5, if_true, if_false, and_self, payload, ha, hb, hd, e6, hback]
      · next h3 =>
        have ha : (UInt8.ofNat (0xF0 + n / 262144)).toNat = 0xF0 + n / 262144 := toNat_ofNat_lt (by omega)
        have hb : (UInt8.ofNat (0x80 + n / 4096 % 64)).toNat = 0x80 + n / 4096 % 64 := toNat_ofNat_lt (by omega)
        have hd : (UInt8.ofNat (0x80 + n / 64 % 64)).toNat = 0x80 + n / 64 % 64 := toNat_ofNat_lt (by omega)
        have hf : (UInt8.ofNat (0x80 + n % 64)).toNat = 0x80 + n % 64 := toNat_ofNat_lt (by omega)
        generalize UInt8.ofNat (0xF0 + n / 262144) = a at *
        generalize UInt8.ofNat (0x80 + n / 4096 % 64) = b at *
        generalize UInt8.ofNat (0x80 + n / 64 % 64) = d at *
        generalize UInt8.ofNat (0x80 + n % 64) = f at *
        have e1 : ¬ a < 0x80 := by rw [UInt8.lt_iff_toNat_lt, ha]; simp; omega
        have e2 : ¬ (0xC2 ≤ a ∧ a ≤ 0xDF) := by
          rw [UInt8.le_iff_toNat_le, UInt8.le_iff_toNat_le, ha]; simp; omega
        have e3 : ¬ (0xE0 ≤ a ∧ a ≤ 0xEF) := by
          rw [UInt8.le_iff_toNat_le, UInt8.le_iff_toNat_le, ha]; simp; omega
        have e3' : 0xF0 ≤ a ∧ a ≤ 0xF4 := by
          rw [UInt8.le_iff_toNat_le, UInt8.le_iff_toNat_le, ha]; simp; omega
        have e4 : isSecondOfFour a b = true := by
          unfold isSecondOfFour
          split
          · next h => simp [h] at ha; simp [UInt8.le_iff_toNat_le]; omega
          · split
            · next h => simp [h] at ha; simp [UInt8.le_iff_toNat_le]; omega
            · exact isContinuation_iff.2 (by omega)
        have e5 : isContinuation d = true := isContinuation_iff.2 (by omega)
        have e6 : isContinuation f = true := isContinuation_iff.2 (by omega)
        have e7 : (240 + n / 262144) % 8 * 262144 + (128 + n / 4096 % 64) % 64 * 4096
            + (128 + n / 64 % 64) % 64 * 64 + (128 + n % 64) % 64 = n := by omega
        simp only [List.cons_append, List.nil_append, pieces.eq_def (a :: b :: d :: f :: rest), e1, e2,
          e3, e3', e4, e5, e6, if_true, if_false, and_self, payload, ha, hb, hd, hf,
          e7, hback]

/-- Encoded text is cut into exactly its characters. -/
theorem pieces_encode (cs : List Char) : pieces (encode cs) = cs.map some := by
  induction cs with
  | nil => rfl
  | cons c cs ih => rw [encode_cons, pieces_encodeChar, ih]; rfl

theorem decode?_encode (cs : List Char) : decode? (encode cs) = some cs := by
  rw [decode?, pieces_encode]
  induction cs with
  | nil => rfl
  | cons c cs ih => simp_all

theorem encode_inj {cs ds : List Char} : encode cs = encode ds ↔ cs = ds := by
  constructor
  · intro h
    have hread := congrArg decode? h
    rw [decode?_encode, decode?_encode] at hread
    exact Option.some.inj hread
  · rintro rfl
    rfl

theorem decodeLossy_encode (cs : List Char) : decodeLossy (encode cs) = cs := by
  simp [decodeLossy, pieces_encode, Function.comp_def]

end Utf8

/-- The bytes of a text. -/
def utf8 (s : String) : Bytes := Utf8.encode s.toList

theorem utf8_append (s t : String) : utf8 (s ++ t) = utf8 s ++ utf8 t := by
  simp only [utf8, String.toList_append, Utf8.encode_append]

/-- Different texts have different bytes. -/
theorem utf8_inj {s t : String} : utf8 s = utf8 t ↔ s = t := by
  rw [utf8, utf8, Utf8.encode_inj, String.toList_inj]

/-- The text of well-formed bytes. -/
def Bytes.text? (bs : Bytes) : Option String := (Utf8.decode? bs).map String.ofList

/-- The text of any bytes, ill-formed pieces replaced. -/
def Bytes.textLossy (bs : Bytes) : String := String.ofList (Utf8.decodeLossy bs)

end NetDelegate
