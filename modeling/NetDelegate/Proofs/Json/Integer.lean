/-
  NetDelegate/Proofs/Json/Integer.lean
  ====================================
  **Integers come through reading and printing unchanged.**  A numeral without fraction and
  exponent whose number fits 64 bits is read as that number (`IsInteger.numeralValue?_eq`), and an
  integer is printed as such a numeral (`Number.IsExact.exists_numeral`).  `-0` is left out: it is
  read as a float.
-/
import NetDelegate.Proofs.Json.Numeral

namespace NetDelegate.Json

/-! ### The number of a run of digits -/

/-- The number of the digits, behind others that stand for `n`. -/
def digitsValue (n : Nat) (ds : Bytes) : Nat := ds.foldl (fun n b => n * 10 + digitValue b) n

@[simp] theorem digitsValue_nil (n : Nat) : digitsValue n [] = n := rfl

@[simp] theorem digitsValue_cons (n : Nat) (b : UInt8) (ds : Bytes) :
    digitsValue n (b :: ds) = digitsValue (n * 10 + digitValue b) ds := by
  simp only [digitsValue, List.foldl_cons]

theorem digitsValue_append (n : Nat) (ds es : Bytes) :
    digitsValue n (ds ++ es) = digitsValue (digitsValue n ds) es := List.foldl_append

theorem le_digitsValue (n : Nat) (ds : Bytes) : n ≤ digitsValue n ds := by
  induction ds generalizing n with
  | nil => exact Nat.le_refl n
  | cons b ds ih =>
    have hlater := ih (n * 10 + digitValue b)
    rw [digitsValue_cons]
    omega

/-- Digits are taken to their end if their number fits 64 bits. -/
theorem takeDigits_of_le {ds : Bytes} (hds : AreDigits ds) {n : Nat} (count : Nat)
    (hfits : digitsValue n ds ≤ maxWord) :
    takeDigits n count ds = (digitsValue n ds, count + ds.length, []) := by
  induction ds generalizing n count with
  | nil => rfl
  | cons b ds ih =>
    obtain ⟨hb, hlater⟩ := List.forall_mem_cons.1 hds
    rw [digitsValue_cons] at hfits
    have hnext : n * 10 + digitValue b ≤ maxWord :=
      Nat.le_trans (le_digitsValue _ ds) hfits
    rw [takeDigits, hb, decide_eq_true hnext, Bool.and_self, if_pos rfl, ih hlater _ hfits,
      digitsValue_cons, List.length_cons]
    simp only [Prod.mk.injEq, true_and, and_true]
    omega

/-- A whole number that fits 64 bits is read to its end. -/
theorem numberBody_whole (negative : Bool) {ds : Bytes} (h : IsWhole ds)
    (hfits : digitsValue 0 ds ≤ maxWord) :
    numberBody negative ds = .ok (finishWhole negative (digitsValue 0 ds) []) := by
  cases h with
  | zero => rfl
  | @digits b ds hb hzero hds =>
    rw [digitsValue_cons, Nat.zero_mul, Nat.zero_add] at hfits ⊢
    rw [numberBody, if_neg hzero, if_pos hb, takeDigits_of_le hds 1 hfits]
    rfl

/-! ### Integer literals -/

/-- An integer literal that fits 64 bits, with a sign or without one, and that is not `-0`. -/
structure IsInteger (negative : Bool) (digits : Bytes) : Prop where
  areDigits : AreDigits digits
  fits : digitsValue 0 digits ≤ if negative then 0x8000000000000000 else maxWord
  nonzero : negative → 0 < digitsValue 0 digits

/-- A numeral of digits alone is a whole number. -/
theorem IsNumeral.isWhole {ds : Bytes} (h : IsNumeral ds) (hds : AreDigits ds) : IsWhole ds := by
  cases h with
  | mk hwhole hfraction hexponent =>
    have hmem : ∀ b ∈ _, isDigit b = true := hds
    cases hfraction with
    | present hb hds =>
      have hpoint : isDigit (ascii '.') = true := hmem _ (by simp)
      exact absurd hpoint (by decide)
    | absent =>
      cases hexponent with
      | present hletter hsign hb hds =>
        have hdigit := hmem _ (List.mem_append_right _ List.mem_cons_self)
        rcases hletter with rfl | rfl
        · exact absurd hdigit (by decide)
        · exact absurd hdigit (by decide)
      | absent =>
        rw [List.append_nil, List.append_nil]
        exact hwhole

/-- The number of a literal. -/
def integer (negative : Bool) (n : Nat) : Number := if negative then .negative n else .natural n

/-- **An integer literal is read as its number.** -/
theorem IsInteger.numeralValue?_eq {negative : Bool} {ds : Bytes} (h : IsInteger negative ds)
    (hds : IsNumeral ds) :
    numeralValue? negative ds = some (integer negative (digitsValue 0 ds)) := by
  have hfits : digitsValue 0 ds ≤ maxWord := by
    have hle := h.fits
    have hmax : 0x8000000000000000 ≤ maxWord := by decide
    split at hle
    · omega
    · exact hle
  rw [numeralValue?, numberBody_whole negative (hds.isWhole h.areDigits) hfits]
  cases negative with
  | false => rfl
  | true =>
    have hrange : 0 < digitsValue 0 ds ∧ digitsValue 0 ds ≤ 0x8000000000000000 :=
      ⟨h.nonzero rfl, h.fits⟩
    simp only [finishWhole, if_true, if_pos hrange]
    rfl

/-! ### Printed integers -/

/-- An integer in the range that it is read in. -/
def Number.IsExact : Number → Prop
  | natural n => n ≤ maxWord
  | negative n => 0 < n ∧ n ≤ 0x8000000000000000
  | real _ => False

theorem IsInteger.isExact {negative : Bool} {ds : Bytes} (h : IsInteger negative ds) :
    (integer negative (digitsValue 0 ds)).IsExact := by
  cases negative with
  | false => exact h.fits
  | true => exact ⟨h.nonzero rfl, h.fits⟩

theorem encode_digitChar : ∀ d < 10, ∃ b : UInt8, Utf8.encode [d.digitChar] = [b] ∧
    isDigit b = true ∧ digitValue b = d ∧ (d ≠ 0 → b ≠ ascii '0') := by
  intro d hd
  refine ⟨ascii d.digitChar, ?_⟩
  revert d
  decide

/-- The decimal digits of a number are a whole number of the grammar, and stand for the number. -/
theorem whole_decimalDigits (n : Nat) :
    IsWhole (Utf8.encode (Number.decimalDigits n)) ∧
      digitsValue 0 (Utf8.encode (Number.decimalDigits n)) = n := by
  induction n using Nat.strongRecOn with
  | ind n ih =>
    rw [Number.decimalDigits]
    by_cases hn : n < 10
    · obtain ⟨b, hbytes, hb, hvalue, hzero⟩ := encode_digitChar n hn
      rw [Nat.toDigits_of_lt_base hn, hbytes]
      refine ⟨?_, ?_⟩
      · by_cases hn : n = 0
        · subst hn
          cases hbytes
          exact .zero
        · exact .digits hb (hzero hn) (by simp [AreDigits])
      · rw [digitsValue_cons, hvalue]
        simp
    · have hmany : 10 ≤ n := Nat.le_of_not_lt hn
      obtain ⟨b, hbytes, hb, hvalue, -⟩ := encode_digitChar (n % 10) (Nat.mod_lt n (by decide))
      obtain ⟨hwhole, hfront⟩ := ih (n / 10) (Nat.div_lt_self (by omega) (by decide))
      rw [Number.decimalDigits] at hwhole hfront
      rw [Nat.toDigits_of_base_le (by decide) hmany, Utf8.encode_append, hbytes]
      constructor
      · -- the front is not zero, so that another digit may follow
        generalize hdigits : Utf8.encode (Nat.toDigits 10 (n / 10)) = digits at hwhole hfront
        cases hwhole with
        | zero =>
          have hnone : n / 10 = 0 := hfront.symm
          omega
        | digits hhead hzero hds =>
          refine .digits hhead hzero ?_
          exact List.forall_mem_append.2 ⟨hds, List.forall_mem_singleton.2 hb⟩
      · rw [digitsValue_append, hfront, digitsValue_cons, digitsValue_nil, hvalue]
        omega

theorem IsWhole.areDigits {ds : Bytes} (h : IsWhole ds) : AreDigits ds := by
  cases h with
  | zero => simp [AreDigits, isDigit, ascii]
  | digits hb hzero hds => exact List.forall_mem_cons.2 ⟨hb, hds⟩

theorem IsWhole.isNumeral {ds : Bytes} (h : IsWhole ds) : IsNumeral ds := by
  have hnumeral := IsNumeral.mk h .absent .absent
  rwa [List.append_nil, List.append_nil] at hnumeral

/-- **An integer is printed as a literal that is read as the integer.** -/
theorem Number.IsExact.exists_numeral {n : Number} (h : n.IsExact) :
    ∃ negative digits, IsNumeral digits ∧ numeralValue? negative digits = some n ∧
      Utf8.encode n.text = if negative then ascii '-' :: digits else digits := by
  cases n with
  | natural n =>
    obtain ⟨hwhole, hvalue⟩ := whole_decimalDigits n
    refine ⟨false, _, hwhole.isNumeral, ?_, rfl⟩
    have hinteger : IsInteger false (Utf8.encode (decimalDigits n)) :=
      ⟨hwhole.areDigits, by rw [hvalue]; exact h, fun hneg => by cases hneg⟩
    rw [hinteger.numeralValue?_eq hwhole.isNumeral, hvalue]
    rfl
  | negative n =>
    obtain ⟨hwhole, hvalue⟩ := whole_decimalDigits n
    refine ⟨true, _, hwhole.isNumeral, ?_, rfl⟩
    have hinteger : IsInteger true (Utf8.encode (decimalDigits n)) :=
      ⟨hwhole.areDigits, by rw [hvalue]; exact h.2, fun _ => by rw [hvalue]; exact h.1⟩
    rw [hinteger.numeralValue?_eq hwhole.isNumeral, hvalue]
    rfl
  | real x => cases h

end NetDelegate.Json
