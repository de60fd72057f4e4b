/-
  NetDelegate/Proofs/Json/Token.lean
  ==================================
  **Blanks, literals and strings: written form, scan and value.**  A written string is a list of
  units (`Mark`): bytes as they are and escapes.  The scan passes over any such list up to the
  closing quote, and over nothing else (`skipString_spelled`, `exists_spelled_of_skipString`).
  The reader comes to the text that the list stands for, if it stands for one
  (`toOption_stringBody`): surrogates must come in pairs, and the bytes must be text.
-/
import NetDelegate.Json.Skip

namespace NetDelegate.Json

/-! ### Outcomes -/

theorem toOption_bind {ε α β : Type} (x : Except ε α) (f : α → Except ε β) :
    (x >>= f).toOption = x.toOption.bind fun v => (f v).toOption := by
  cases x with
  | error e => rfl
  | ok v => rfl

theorem exists_of_bind_eq_ok {ε α β : Type} {x : Except ε α} {f : α → Except ε β} {r : β}
    (h : (x >>= f) = .ok r) : ∃ v, x = .ok v ∧ f v = .ok r := by
  cases x with
  | error e => cases h
  | ok v => exact ⟨v, rfl, h⟩

theorem exists_of_map_eq_ok {ε α β : Type} {x : Except ε α} {f : α → β} {r : β}
    (h : x.map f = .ok r) : ∃ v, x = .ok v ∧ f v = r := by
  cases x with
  | error e => cases h
  | ok v => exact ⟨v, rfl, Except.ok.inj h⟩

theorem toOption_eq_some_iff {ε α : Type} {x : Except ε α} {v : α} :
    x.toOption = some v ↔ x = .ok v := by
  cases x with
  | error e => simp [Except.toOption]
  | ok w => simp [Except.toOption]

/-! ### Blanks -/

/-- Blanks between tokens. -/
abbrev Blanks : Type := { bs : Bytes // ∀ b ∈ bs, isSpace b = true }

def noBlanks : Blanks := ⟨[], List.forall_mem_nil _⟩

theorem skipSpace_blanks (blanks : Blanks) (rest : Bytes) :
    skipSpace (blanks.1 ++ rest) = skipSpace rest := by
  rw [skipSpace, List.dropWhile_append_of_pos blanks.2]
  rfl

theorem skipSpace_cons {b : UInt8} (hb : isSpace b = false) (rest : Bytes) :
    skipSpace (b :: rest) = b :: rest := by
  apply List.dropWhile_cons_of_neg
  rw [hb]
  exact Bool.false_ne_true

theorem exists_blanks (input : Bytes) : ∃ blanks : Blanks, input = blanks.1 ++ skipSpace input := by
  refine ⟨⟨input.takeWhile isSpace, ?_⟩, List.takeWhile_append_dropWhile.symm⟩
  exact List.all_eq_true.1 List.all_takeWhile

theorem skipSpace_skipSpace (input : Bytes) : skipSpace (skipSpace input) = skipSpace input := by
  obtain ⟨blanks, hinput⟩ := exists_blanks input
  have hskip := congrArg skipSpace hinput
  rw [skipSpace_blanks] at hskip
  exact hskip.symm

theorem exists_blanks_of_skipSpace {input rest : Bytes} {b : UInt8}
    (h : skipSpace input = b :: rest) : ∃ blanks : Blanks, input = blanks.1 ++ b :: rest := by
  obtain ⟨blanks, hinput⟩ := exists_blanks input
  exact ⟨blanks, by rw [← h]; exact hinput⟩

/-! ### Literals -/

theorem literal_append (word : List Char) (rest : Bytes) :
    literal word (word.map ascii ++ rest) = .ok rest := by
  induction word with
  | nil => rfl
  | cons c word ih =>
    rw [List.map_cons, List.cons_append, literal, if_pos rfl]
    exact ih

theorem eq_of_literal {word : List Char} {input rest : Bytes}
    (h : literal word input = .ok rest) : input = word.map ascii ++ rest := by
  induction word generalizing input with
  | nil =>
    cases h
    rfl
  | cons c word ih =>
    cases input with
    | nil => cases h
    | cons b more =>
      rw [literal] at h
      split at h
      · next hb => rw [hb, ih h, List.map_cons, List.cons_append]
      · cases h

/-! ### Marks -/

/-- May the byte stand in a string as it is? -/
def isUnescaped (b : UInt8) : Bool := b ≠ ascii '"' && b ≠ ascii '\\' && 0x20 ≤ b

/-- A unit of a written string: a byte as it is, a short escape, or an escape by number. -/
inductive Mark where
  | byte (b : UInt8) (hb : isUnescaped b = true)
  | short (b : UInt8) (c : Char) (hc : shortEscape? b = some c)
  | code (a b c d : UInt8) (n : Nat) (hn : hexFour? a b c d = some n)

/-- The written form of a unit. -/
def Mark.bytes : Mark → Bytes
  | byte b _ => [b]
  | short b _ _ => [ascii '\\', b]
  | code a b c d _ _ => [ascii '\\', ascii 'u', a, b, c, d]

/-- The written form of a string, without its quotes. -/
def spelled (marks : List Mark) : Bytes := marks.flatMap Mark.bytes

theorem spelled_cons (mark : Mark) (marks : List Mark) :
    spelled (mark :: marks) = mark.bytes ++ spelled marks := rfl

theorem spelled_append (marks more : List Mark) :
    spelled (marks ++ more) = spelled marks ++ spelled more := List.flatMap_append

theorem length_mark_pos (mark : Mark) : 0 < mark.bytes.length := by
  cases mark with
  | byte b hb => exact Nat.one_pos
  | short b c hc => exact Nat.two_pos
  | code a b c d n hn => exact Nat.succ_pos 5

theorem length_lt_of_cons {mark : Mark} {marks : List Mark} {steps : Nat}
    (h : (spelled (mark :: marks)).length < steps + 1) : (spelled marks).length < steps := by
  have hpos := length_mark_pos mark
  rw [spelled_cons, List.length_append] at h
  omega

/-- The character of a leading and a trailing surrogate. -/
def pairedChar (n m : Nat) : Char := Char.ofNat ((n - 0xD800) * 0x400 + (m - 0xDC00) + 0x10000)

/-- The bytes that a written string stands for, if its surrogates come in pairs. -/
def meaning? : List Mark → Option Bytes
  | [] => some []
  | .byte b _ :: marks => (meaning? marks).map (b :: ·)
  | .short _ c _ :: marks => (meaning? marks).map (Utf8.encodeChar c ++ ·)
  | .code _ _ _ _ n _ :: marks =>
    if isTrailing n then none
    else if isLeading n then
      match marks with
      | .code _ _ _ _ m _ :: marks =>
        if isTrailing m then (meaning? marks).map (Utf8.encodeChar (pairedChar n m) ++ ·) else none
      | _ => none
    else (meaning? marks).map (Utf8.encodeChar (Char.ofNat n) ++ ·)

/-- The text that a written string stands for. -/
def textOf? (marks : List Mark) : Option String := (meaning? marks).bind Bytes.text?

/-! ### Passing over a string -/

theorem hexEscape_append {a b c d : UInt8} {n : Nat} (hn : hexFour? a b c d = some n)
    (rest : Bytes) : hexEscape (a :: b :: c :: d :: rest) = .ok (n, rest) := by
  simp only [hexEscape, hn]

theorem exists_of_hexEscape {input rest : Bytes} {n : Nat} (h : hexEscape input = .ok (n, rest)) :
    ∃ a b c d, input = a :: b :: c :: d :: rest ∧ hexFour? a b c d = some n := by
  unfold hexEscape at h
  split at h
  · next a b c d more =>
    split at h
    · next hn =>
      cases h
      exact ⟨a, b, c, d, rfl, hn⟩
    · cases h
  · cases h

theorem shortEscape?_u : shortEscape? (ascii 'u') = none := by decide

theorem skipStringSteps_mark (mark : Mark) (steps : Nat) (rest : Bytes) :
    skipStringSteps (steps + 1) (mark.bytes ++ rest) = skipStringSteps steps rest := by
  cases mark with
  | byte b hb =>
    simp only [isUnescaped, Bool.and_eq_true, decide_eq_true_eq] at hb
    obtain ⟨⟨hquote, hbackslash⟩, hprintable⟩ := hb
    rw [Mark.bytes, List.singleton_append, skipStringSteps, if_neg hquote, if_neg hbackslash,
      if_neg (UInt8.not_lt.2 hprintable)]
  | short b c hc =>
    have hescape : skipEscape (b :: rest) = .ok rest := by
      rw [skipEscape, hc]
      rfl
    rw [Mark.bytes, List.cons_append, List.singleton_append, skipStringSteps,
      if_neg (by decide), if_pos rfl, hescape]
    rfl
  | code a b c d n hn =>
    have hescape : skipEscape (ascii 'u' :: a :: b :: c :: d :: rest) = .ok rest := by
      rw [skipEscape, shortEscape?_u, hexEscape_append hn]
      rfl
    simp only [Mark.bytes, List.cons_append, List.nil_append]
    rw [skipStringSteps, if_neg (by decide), if_pos rfl, hescape]
    rfl

theorem skipStringSteps_spelled (marks : List Mark) {steps : Nat}
    (hsteps : (spelled marks).length < steps) (rest : Bytes) :
    skipStringSteps steps (spelled marks ++ ascii '"' :: rest) = .ok rest := by
  induction marks generalizing steps with
  | nil =>
    obtain ⟨steps, rfl⟩ := Nat.exists_eq_succ_of_ne_zero (Nat.ne_zero_of_lt hsteps)
    rw [spelled, List.flatMap_nil, List.nil_append, skipStringSteps, if_pos rfl]
  | cons mark marks ih =>
    obtain ⟨steps, rfl⟩ := Nat.exists_eq_succ_of_ne_zero (Nat.ne_zero_of_lt hsteps)
    rw [spelled_cons, List.append_assoc, skipStringSteps_mark]
    exact ih (length_lt_of_cons hsteps)

/-- The scan goes to the closing quote. -/
theorem skipString_spelled (marks : List Mark) (rest : Bytes) :
    skipString (spelled marks ++ ascii '"' :: rest) = .ok rest := by
  apply skipStringSteps_spelled
  rw [List.length_append]
  omega

theorem exists_mark_of_skipEscape {input rest : Bytes} (h : skipEscape input = .ok rest) :
    ∃ mark : Mark, ascii '\\' :: input = mark.bytes ++ rest := by
  cases input with
  | nil => cases h
  | cons b more =>
    rw [skipEscape] at h
    split at h
    · next hshort =>
      cases h
      obtain ⟨c, hc⟩ := Option.isSome_iff_exists.1 hshort
      exact ⟨.short b c hc, rfl⟩
    · split at h
      · next hb =>
        cases hescape : hexEscape more with
        | error stop =>
          rw [hescape] at h
          cases h
        | ok found =>
          obtain ⟨n, left⟩ := found
          rw [hescape] at h
          cases h
          obtain ⟨a, b', c, d, rfl, hn⟩ := exists_of_hexEscape hescape
          exact ⟨.code a b' c d n hn, by rw [hb]; rfl⟩
      · cases h

theorem exists_spelled_of_skipStringSteps {steps : Nat} {input rest : Bytes}
    (h : skipStringSteps steps input = .ok rest) :
    ∃ marks, input = spelled marks ++ ascii '"' :: rest := by
  induction steps generalizing input with
  | zero => cases h
  | succ steps ih =>
    cases input with
    | nil => cases h
    | cons b more =>
      rw [skipStringSteps] at h
      by_cases hquote : b = ascii '"'
      · rw [if_pos hquote] at h
        cases h
        exact ⟨[], by rw [hquote]; rfl⟩
      · rw [if_neg hquote] at h
        by_cases hbackslash : b = ascii '\\'
        · rw [if_pos hbackslash] at h
          cases hescape : skipEscape more with
          | error stop =>
            rw [hescape] at h
            cases h
          | ok left =>
            rw [hescape] at h
            obtain ⟨mark, hmark⟩ := exists_mark_of_skipEscape hescape
            obtain ⟨marks, hmarks⟩ := ih h
            refine ⟨mark :: marks, ?_⟩
            rw [hbackslash, hmark, hmarks, spelled_cons, List.append_assoc]
        · rw [if_neg hbackslash] at h
          by_cases hcontrol : b < 0x20
          · rw [if_pos hcontrol] at h
            cases h
          · rw [if_neg hcontrol] at h
            have hplain : isUnescaped b = true := by
              simp only [isUnescaped, Bool.and_eq_true, decide_eq_true_eq]
              exact ⟨⟨hquote, hbackslash⟩, UInt8.not_lt.1 hcontrol⟩
            obtain ⟨marks, hmarks⟩ := ih h
            refine ⟨.byte b hplain :: marks, ?_⟩
            rw [hmarks]
            rfl

/-- What the scan passes over is a written string and its closing quote. -/
theorem exists_spelled_of_skipString {input rest : Bytes} (h : skipString input = .ok rest) :
    ∃ marks, input = spelled marks ++ ascii '"' :: rest :=
  exists_spelled_of_skipStringSteps h

/-! ### Reading a string -/

theorem stringBytes_byte {b : UInt8} (hb : isUnescaped b = true) (steps : Nat) (rest : Bytes) :
    (stringBytes (steps + 1) (b :: rest)).toOption =
      (stringBytes steps rest).toOption.map fun p => (b :: p.1, p.2) := by
  simp only [isUnescaped, Bool.and_eq_true, decide_eq_true_eq] at hb
  obtain ⟨⟨hquote, hbackslash⟩, hprintable⟩ := hb
  rw [stringBytes, if_neg hquote, if_neg hbackslash, if_neg (UInt8.not_lt.2 hprintable),
    toOption_bind]
  cases (stringBytes steps rest).toOption with
  | none => rfl
  | some p => rfl

theorem stringBytes_escape {input : Bytes} (steps : Nat) :
    (stringBytes (steps + 1) (ascii '\\' :: input)).toOption =
      (escaped input).toOption.bind fun e =>
        (stringBytes steps e.2).toOption.map fun p => (Utf8.encodeChar e.1 ++ p.1, p.2) := by
  rw [stringBytes, if_neg (by decide), if_pos rfl, toOption_bind]
  congr 1
  funext e
  rw [toOption_bind]
  cases (stringBytes steps e.2).toOption with
  | none => rfl
  | some p => rfl

theorem escaped_short {b : UInt8} {c : Char} (hc : shortEscape? b = some c) (rest : Bytes) :
    escaped (b :: rest) = .ok (c, rest) := by
  simp only [escaped, hc]

theorem stringBytes_short {b : UInt8} {c : Char} (hc : shortEscape? b = some c) (steps : Nat)
    (rest : Bytes) :
    (stringBytes (steps + 1) (ascii '\\' :: b :: rest)).toOption =
      (stringBytes steps rest).toOption.map fun p => (Utf8.encodeChar c ++ p.1, p.2) := by
  rw [stringBytes_escape, escaped_short hc]
  rfl

/-- Reads an escape by number where a trailing surrogate is wanted. -/
def trailing (input : Bytes) : Except Stop (Nat × Bytes) :=
  pairByte '\\' input >>= pairByte 'u' >>= hexEscape

/-- An escape by number is a character of its own, or a leading surrogate, which asks for more. -/
theorem toOption_escaped_code {a b c d : UInt8} {n : Nat} (hn : hexFour? a b c d = some n)
    (rest : Bytes) :
    (escaped (ascii 'u' :: a :: b :: c :: d :: rest)).toOption =
      if isTrailing n then none
      else if isLeading n then
        (trailing rest).toOption.bind fun p =>
          if isTrailing p.1 then some (pairedChar n p.1, p.2) else none
      else some (Char.ofNat n, rest) := by
  simp only [escaped, shortEscape?_u, if_pos, hexEscape_append hn]
  change (if isTrailing n = true then _ else _ : Except Stop (Char × Bytes)).toOption = _
  split
  · rfl
  · split
    · unfold trailing
      simp only [toOption_bind, Option.bind_assoc]
      congr 1
      funext x
      congr 1
      funext y
      congr 1
      funext p
      split
      · rfl
      · rfl
    · rfl

theorem trailing_code {a b c d : UInt8} {n : Nat} (hn : hexFour? a b c d = some n)
    (rest : Bytes) :
    (trailing (ascii '\\' :: ascii 'u' :: a :: b :: c :: d :: rest)).toOption = some (n, rest) := by
  change (hexEscape (a :: b :: c :: d :: rest)).toOption = _
  rw [hexEscape_append hn]
  rfl

theorem toOption_trailing {b : UInt8} (rest : Bytes)
    (h : b = ascii '\\' → rest.head? ≠ some (ascii 'u')) :
    (trailing (b :: rest)).toOption = none := by
  unfold trailing
  rw [toOption_bind, toOption_bind, pairByte]
  by_cases hb : b = ascii '\\'
  · rw [if_pos hb]
    cases rest with
    | nil => rfl
    | cons c rest =>
      have hc : c ≠ ascii 'u' := by
        intro hc
        exact h hb (congrArg some hc)
      change ((pairByte 'u' (c :: rest)).toOption.bind _) = none
      rw [pairByte, if_neg hc]
      rfl
  · rw [if_neg hb]
    rfl

theorem stringBytes_code {a b c d : UInt8} {n : Nat} (hn : hexFour? a b c d = some n)
    (marks : List Mark) (steps : Nat) (rest : Bytes) :
    (stringBytes (steps + 1) (spelled (.code a b c d n hn :: marks) ++ rest)).toOption =
      if isTrailing n then none
      else if isLeading n then
        (trailing (spelled marks ++ rest)).toOption.bind fun p =>
          if isTrailing p.1 then
            (stringBytes steps p.2).toOption.map fun q =>
              (Utf8.encodeChar (pairedChar n p.1) ++ q.1, q.2)
          else none
      else
        (stringBytes steps (spelled marks ++ rest)).toOption.map fun q =>
          (Utf8.encodeChar (Char.ofNat n) ++ q.1, q.2) := by
  rw [spelled_cons, List.append_assoc]
  simp only [Mark.bytes, List.cons_append, List.nil_append]
  rw [stringBytes_escape, toOption_escaped_code hn]
  split
  · rfl
  · split
    · rw [Option.bind_assoc]
      congr 1
      funext p
      split
      · rw [Option.bind_some]
      · rfl
    · rw [Option.bind_some]

/-- What follows the marks before is no second escape by number. -/
theorem trailing_spelled {marks : List Mark} (rest : Bytes)
    (h : ∀ a b c d n hn more, marks ≠ .code a b c d n hn :: more) :
    (trailing (spelled marks ++ ascii '"' :: rest)).toOption = none := by
  cases marks with
  | nil =>
    apply toOption_trailing
    intro hquote
    exact absurd hquote (by decide)
  | cons mark marks =>
    cases mark with
    | byte b hb =>
      apply toOption_trailing
      rintro rfl
      exact absurd hb (by decide)
    | short b c hc =>
      apply toOption_trailing
      intro _ hu
      rw [Option.some.inj hu, shortEscape?_u] at hc
      cases hc
    | code a b c d n hn => exact absurd rfl (h a b c d n hn marks)

/-- The reader goes to the closing quote just when the marks stand for bytes, and gives these. -/
theorem toOption_stringBytes (marks : List Mark) {steps : Nat}
    (hsteps : (spelled marks).length < steps) (rest : Bytes) :
    (stringBytes steps (spelled marks ++ ascii '"' :: rest)).toOption =
      (meaning? marks).map fun bytes => (bytes, rest) := by
  -- along `meaning?`, which takes two marks at a time where surrogates are paired
  fun_induction meaning? marks generalizing steps
  all_goals obtain ⟨steps, rfl⟩ := Nat.exists_eq_succ_of_ne_zero (Nat.ne_zero_of_lt hsteps)
  case case1 => rfl
  case case2 b hb marks ih =>
    rw [spelled_cons, List.append_assoc, Mark.bytes, List.singleton_append, stringBytes_byte hb,
      ih (length_lt_of_cons hsteps)]
    simp only [Option.map_map, Function.comp_def]
  case case3 b c hc marks ih =>
    rw [spelled_cons, List.append_assoc, Mark.bytes, List.cons_append, List.singleton_append,
      stringBytes_short hc, ih (length_lt_of_cons hsteps)]
    simp only [Option.map_map, Function.comp_def]
  case case4 a b c d n hn marks htrailing =>
    rw [stringBytes_code hn, if_pos htrailing]
    rfl
  case case5 a b c d n hn htrailing hleading a' b' c' d' m hm marks hpaired ih =>
    have hfirst := length_lt_of_cons hsteps
    have hsecond := length_lt_of_cons (Nat.lt_succ_of_lt hfirst)
    rw [stringBytes_code hn, if_neg htrailing, if_pos hleading, spelled_cons, List.append_assoc]
    simp only [Mark.bytes, List.cons_append, List.nil_append]
    rw [trailing_code hm, Option.bind_some, if_pos hpaired, ih hsecond]
    simp only [Option.map_map, Function.comp_def]
  case case6 a b c d n hn htrailing hleading a' b' c' d' m hm marks hpaired =>
    rw [stringBytes_code hn, if_neg htrailing, if_pos hleading, spelled_cons, List.append_assoc]
    simp only [Mark.bytes, List.cons_append, List.nil_append]
    rw [trailing_code hm, Option.bind_some, if_neg hpaired]
    rfl
  case case7 a b c d n hn marks htrailing hleading hnone =>
    rw [stringBytes_code hn, if_neg htrailing, if_pos hleading, trailing_spelled rest hnone]
    rfl
  case case8 a b c d n hn marks htrailing hleading ih =>
    rw [stringBytes_code hn, if_neg htrailing, if_neg hleading, ih (length_lt_of_cons hsteps)]
    simp only [Option.map_map, Function.comp_def]

/-- **Reading a string:** the text that its marks stand for, if they stand for one. -/
theorem toOption_stringBody (marks : List Mark) (rest : Bytes) :
    (stringBody (spelled marks ++ ascii '"' :: rest)).toOption =
      (textOf? marks).map fun s => (s, rest) := by
  have hsteps : (spelled marks).length < (spelled marks ++ ascii '"' :: rest).length + 1 := by
    rw [List.length_append]
    omega
  rw [stringBody, toOption_bind, toOption_stringBytes marks hsteps, textOf?]
  cases meaning? marks with
  | none => rfl
  | some bytes =>
    simp only [Option.map_some, Option.bind_some]
    cases bytes.text? with
    | none => rfl
    | some s => rfl

end NetDelegate.Json
