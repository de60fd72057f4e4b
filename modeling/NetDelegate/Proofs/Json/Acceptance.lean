/-
  NetDelegate/Proofs/Json/Acceptance.lean
  =======================================
  **What a reader takes is a text of the grammar.**  Where a reader comes to something, the scan
  passes over the same bytes (`GoesAsFar`).  This holds of the tokens, goes from the items of an
  array or object to the whole of it, and so holds of values (`goesAsFar_readValue`) and of arrays
  and objects with typed data in them (`goesAsFar_readArray`, `goesAsFar_readObject`).  As the scan
  passes over values only, what such a reader accepts is a value (`exists_outline_of_readAll`).
-/
import NetDelegate.Proofs.Json.Typed

namespace NetDelegate.Json

/-- Where the reader comes to something, the scan goes equally far. -/
def GoesAsFar {α : Type} (read : Bytes → Except Stop (α × Bytes))
    (skip : Bytes → Except Stop Bytes) : Prop :=
  ∀ {input : Bytes} {v : α} {rest : Bytes}, read input = .ok (v, rest) → skip input = .ok rest

/-! ### Strings -/

theorem eq_of_pairByte {c : Char} {input rest : Bytes} (h : pairByte c input = .ok rest) :
    input = ascii c :: rest := by
  cases input with
  | nil => cases h
  | cons b more =>
    rw [pairByte] at h
    split at h
    · next hb =>
      cases h
      rw [hb]
    · cases h

/-- An escape that is read is one mark, or the two of a pair of surrogates. -/
theorem exists_spelled_of_escaped {input rest : Bytes} {c : Char}
    (h : escaped input = .ok (c, rest)) :
    ∃ marks, ascii '\\' :: input = spelled marks ++ rest := by
  cases input with
  | nil => cases h
  | cons b more =>
    rw [escaped] at h
    split at h
    · next hc =>
      cases h
      exact ⟨[.short b c hc], rfl⟩
    · split at h
      · next hb =>
        obtain ⟨⟨n, left⟩, hfirst, hafter⟩ := exists_of_bind_eq_ok h
        obtain ⟨x₁, x₂, x₃, x₄, rfl, hn⟩ := exists_of_hexEscape hfirst
        dsimp only at hafter
        split at hafter
        · cases hafter
        split at hafter
        · obtain ⟨left₁, hbackslash, hafter⟩ := exists_of_bind_eq_ok hafter
          obtain ⟨left₂, hu, hafter⟩ := exists_of_bind_eq_ok hafter
          obtain ⟨⟨m, left₃⟩, hsecond, hlast⟩ := exists_of_bind_eq_ok hafter
          obtain ⟨y₁, y₂, y₃, y₄, rfl, hm⟩ := exists_of_hexEscape hsecond
          dsimp only at hlast
          split at hlast
          · obtain ⟨-, rfl⟩ := Prod.mk.inj (Except.ok.inj hlast)
            refine ⟨[.code x₁ x₂ x₃ x₄ n hn, .code y₁ y₂ y₃ y₄ m hm], ?_⟩
            rw [hb, eq_of_pairByte hbackslash, eq_of_pairByte hu]
            rfl
          · cases hlast
        · cases hafter
          exact ⟨[.code x₁ x₂ x₃ x₄ n hn], by rw [hb]; rfl⟩
      · cases h

theorem exists_spelled_of_stringBytes {steps : Nat} {input s rest : Bytes}
    (h : stringBytes steps input = .ok (s, rest)) :
    ∃ marks, input = spelled marks ++ ascii '"' :: rest := by
  induction steps generalizing input s with
  | zero => cases h
  | succ steps ih =>
    cases input with
    | nil => cases h
    | cons b more =>
      rw [stringBytes] at h
      split at h
      · next hb =>
        cases h
        exact ⟨[], by rw [hb]; rfl⟩
      split at h
      · next hb =>
        obtain ⟨⟨c, left⟩, hescape, h⟩ := exists_of_bind_eq_ok h
        obtain ⟨⟨s', left'⟩, hlater, h⟩ := exists_of_bind_eq_ok h
        cases h
        obtain ⟨marks, hmarks⟩ := exists_spelled_of_escaped hescape
        obtain ⟨marks', rfl⟩ := ih hlater
        refine ⟨marks ++ marks', ?_⟩
        rw [hb, hmarks, spelled_append, List.append_assoc]
      split at h
      · cases h
      · next hquote hbackslash hcontrol =>
        obtain ⟨⟨s', left'⟩, hlater, h⟩ := exists_of_bind_eq_ok h
        cases h
        have hplain : isUnescaped b = true := by
          simp only [isUnescaped, Bool.and_eq_true, decide_eq_true_eq]
          exact ⟨⟨hquote, hbackslash⟩, UInt8.not_lt.1 hcontrol⟩
        obtain ⟨marks, rfl⟩ := ih hlater
        exact ⟨.byte b hplain :: marks, rfl⟩

theorem goesAsFar_stringBody : GoesAsFar stringBody skipString := by
  intro input s rest h
  obtain ⟨⟨bs, left⟩, hbytes, h⟩ := exists_of_bind_eq_ok h
  dsimp only at h
  split at h
  · cases h
    obtain ⟨marks, rfl⟩ := exists_spelled_of_stringBytes hbytes
    exact skipString_spelled marks rest
  · cases h

/-! ### Arrays and objects -/

/-- The scan leaves the blanks after a comma to the item. -/
theorem exists_skipToItem {skip : Bytes → Except Stop Bytes}
    (hblanks : ∀ input, skip (skipSpace input) = skip input) {first : Bool} {input start : Bytes}
    (h : nextItem first input = .ok start) :
    ∃ start', skipToItem first input = .ok start' ∧ skip start' = skip start := by
  cases input with
  | nil => cases h
  | cons b more =>
    cases first with
    | true =>
      cases h
      exact ⟨_, rfl, rfl⟩
    | false =>
      rw [nextItem, if_neg Bool.false_ne_true] at h
      split at h
      · next hcomma =>
        refine ⟨more, by rw [skipToItem, if_neg Bool.false_ne_true, if_pos hcomma], ?_⟩
        split at h
        · cases h
        · next c more' hmore =>
          split at h
          · cases h
          · cases h
            rw [← hmore, hblanks]
      · cases h

theorem skipToMember_of_nextName {first : Bool} {input start rest : Bytes}
    (h : nextName first input = .ok start) (hname : (skipString start >>= colon) = .ok rest) :
    skipToMember first input = .ok rest := by
  cases input with
  | nil => cases h
  | cons b more =>
    cases first with
    | true =>
      rw [nextName, if_pos rfl] at h
      split at h
      · next hquote =>
        cases h
        rw [← hname, hquote]
        rfl
      · cases h
    | false =>
      rw [nextName, if_neg Bool.false_ne_true] at h
      split at h
      · next hcomma =>
        split at h
        · cases h
        · next c more' hmore =>
          split at h
          · next hquote =>
            cases h
            rw [← hname, hcomma, skipToMember_comma, skipName, hmore, hquote]
            rfl
          · split at h
            · cases h
            · cases h
      · cases h

section
variable {α : Type} {item : Bytes → Except Stop (α × Bytes)} {skip : Bytes → Except Stop Bytes}
  (hitem : GoesAsFar item skip)
include hitem

theorem goesAsFar_elements (hblanks : ∀ input, skip (skipSpace input) = skip input) (steps : Nat)
    (first : Bool) :
    GoesAsFar (elements item steps first)
      (skipInside ']' .endInList skipToItem skip steps first) := by
  induction steps generalizing first with
  | zero =>
    intro input vs rest h
    cases h
  | succ steps ih =>
    intro input vs rest h
    rw [elements] at h
    rw [skipInside]
    cases hinput : skipSpace input with
    | nil =>
      rw [hinput] at h
      cases h
    | cons b more =>
      rw [hinput] at h
      dsimp only at h ⊢
      split at h
      · next hb =>
        cases h
        rw [if_pos hb]
      · next hb =>
        obtain ⟨start, hstart, h⟩ := exists_of_bind_eq_ok h
        obtain ⟨⟨v, left⟩, hv, h⟩ := exists_of_bind_eq_ok h
        obtain ⟨⟨vs', left'⟩, hvs, h⟩ := exists_of_bind_eq_ok h
        cases h
        obtain ⟨start', hstart', hsame⟩ := exists_skipToItem hblanks hstart
        rw [if_neg hb, hstart']
        change (skip start' >>= _) = _
        rw [hsame, hitem hv]
        exact ih false hvs

theorem goesAsFar_pairs (steps : Nat) (first : Bool) :
    GoesAsFar (pairs item steps first)
      (skipInside '\x7d' .endInObject skipToMember skip steps first) := by
  induction steps generalizing first with
  | zero =>
    intro input ps rest h
    cases h
  | succ steps ih =>
    intro input ps rest h
    rw [pairs] at h
    rw [skipInside]
    cases hinput : skipSpace input with
    | nil =>
      rw [hinput] at h
      cases h
    | cons b more =>
      rw [hinput] at h
      dsimp only at h ⊢
      split at h
      · next hb =>
        cases h
        rw [if_pos hb]
      · next hb =>
        obtain ⟨start, hstart, h⟩ := exists_of_bind_eq_ok h
        obtain ⟨⟨name, left⟩, hname, h⟩ := exists_of_bind_eq_ok h
        obtain ⟨left', hcolon, h⟩ := exists_of_bind_eq_ok h
        obtain ⟨⟨v, left''⟩, hv, h⟩ := exists_of_bind_eq_ok h
        obtain ⟨⟨ps', _⟩, hps, h⟩ := exists_of_bind_eq_ok h
        cases h
        have hskipped : (skipString start >>= colon) = .ok left' := by
          rw [goesAsFar_stringBody hname]
          exact hcolon
        rw [if_neg hb, skipToMember_of_nextName hstart hskipped]
        change (skip left' >>= _) = _
        rw [hitem hv]
        exact ih false hps

end

/-! ### Values -/

/-- **Where a value is read the scan goes equally far,** with as many levels of nesting. -/
theorem goesAsFar_readValue (depth : Nat) : GoesAsFar (readValue depth) (skipLevels depth) := by
  induction depth using Nat.strongRecOn with
  | ind depth ih =>
    intro input v rest h
    rw [readValue] at h
    rw [skipLevels]
    cases hinput : skipSpace input with
    | nil =>
      rw [hinput] at h
      cases h
    | cons b more =>
      rw [hinput] at h
      dsimp only at h ⊢
      split at h
      · next hb =>
        obtain ⟨left, hword, h⟩ := exists_of_bind_eq_ok h
        cases h
        rw [if_pos hb, hword]
      next hn =>
      rw [if_neg hn]
      split at h
      · next hb =>
        obtain ⟨left, hword, h⟩ := exists_of_bind_eq_ok h
        cases h
        rw [if_pos hb, hword]
      next ht =>
      rw [if_neg ht]
      split at h
      · next hb =>
        obtain ⟨left, hword, h⟩ := exists_of_bind_eq_ok h
        cases h
        rw [if_pos hb, hword]
      next hf =>
      rw [if_neg hf]
      split at h
      · next hb =>
        obtain ⟨⟨n, left⟩, hnumber, h⟩ := exists_of_bind_eq_ok h
        cases h
        rw [if_pos hb]
        exact (matches_numberBody true).skip_of_read hnumber
      next hminus =>
      rw [if_neg hminus]
      split at h
      · next hb =>
        obtain ⟨⟨n, left⟩, hnumber, h⟩ := exists_of_bind_eq_ok h
        cases h
        rw [if_pos hb]
        exact (matches_numberBody false).skip_of_read hnumber
      next hdigit =>
      rw [if_neg hdigit]
      split at h
      · next hb =>
        obtain ⟨⟨s, left⟩, hstring, h⟩ := exists_of_bind_eq_ok h
        cases h
        rw [if_pos hb]
        exact goesAsFar_stringBody hstring
      next hquote =>
      rw [if_neg hquote]
      split at h
      · next hb =>
        rw [if_pos hb]
        cases depth with
        | zero => cases h
        | succ depth =>
          obtain ⟨⟨vs, left⟩, hitems, h⟩ := exists_of_bind_eq_ok h
          cases h
          exact goesAsFar_elements (ih depth (Nat.lt_succ_self depth))
            (Outline.skipLevels_skipSpace depth) _ true hitems
      next hbracket =>
      rw [if_neg hbracket]
      split at h
      · next hb =>
        rw [if_pos hb]
        cases depth with
        | zero => cases h
        | succ depth =>
          obtain ⟨⟨ps, left⟩, hmembers, h⟩ := exists_of_bind_eq_ok h
          cases h
          exact goesAsFar_pairs (ih depth (Nat.lt_succ_self depth)) _ true hmembers
      · cases h

section
variable {α : Type} {item : Nat → Bytes → Except Stop (α × Bytes)}
  (hitem : ∀ depth, GoesAsFar (item depth) (skipLevels depth))
include hitem

theorem goesAsFar_readArray (depth : Nat) : GoesAsFar (readArray item depth) (skipLevels depth) := by
  intro input vs rest h
  rw [readArray] at h
  split at h
  · cases h
  · next b more hinput =>
    split at h
    · next hb =>
      cases depth with
      | zero => cases h
      | succ depth =>
        rw [skipLevels, hinput, hb]
        exact goesAsFar_elements (hitem depth) (Outline.skipLevels_skipSpace depth) _ true h
    · exact absurd h unexpected_ne_ok

theorem goesAsFar_readObject (depth : Nat) :
    GoesAsFar (readObject item depth) (skipLevels depth) := by
  intro input ps rest h
  rw [readObject] at h
  split at h
  · cases h
  · next b more hinput =>
    split at h
    · next hb =>
      cases depth with
      | zero => cases h
      | succ depth =>
        rw [skipLevels, hinput, hb]
        exact goesAsFar_pairs (hitem depth) _ true h
    · exact absurd h unexpected_ne_ok

end

end NetDelegate.Json
