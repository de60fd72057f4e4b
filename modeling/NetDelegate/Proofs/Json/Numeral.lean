/-
  NetDelegate/Proofs/Json/Numeral.lean
  ====================================
  **Numerals.**  `IsNumeral` is the grammar of a number after its sign: a whole part, a fraction
  and an exponent, the latter two optional.  The scan passes over numerals and over nothing else
  (`skipNumber_append`, `exists_numeral_of_skipNumber`).  The reader goes as far as the scan
  (`matches_numberBody`); what it comes to does not depend on what follows
  (`toOption_numberBody`), so that a numeral has a value of its own (`numeralValue?`), if it
  is not out of range.
-/
import NetDelegate.Proofs.Json.Token

namespace NetDelegate.Json

/-! ### The grammar -/

/-- Digits, of which there may be none. -/
def AreDigits (ds : Bytes) : Prop := ∀ b ∈ ds, isDigit b = true

/-- A zero, or digits that do not begin with one. -/
inductive IsWhole : Bytes → Prop
  | zero : IsWhole [ascii '0']
  | digits {b : UInt8} {ds : Bytes} (hb : isDigit b = true) (hzero : b ≠ ascii '0')
      (hds : AreDigits ds) : IsWhole (b :: ds)

inductive IsFraction : Bytes → Prop
  | absent : IsFraction []
  | present {b : UInt8} {ds : Bytes} (hb : isDigit b = true) (hds : AreDigits ds) :
      IsFraction (ascii '.' :: b :: ds)

/-- The sign of an exponent, if there is one. -/
inductive IsSign : Bytes → Prop
  | absent : IsSign []
  | plus : IsSign [ascii '+']
  | minus : IsSign [ascii '-']

inductive IsExponent : Bytes → Prop
  | absent : IsExponent []
  | present {letter : UInt8} {sign : Bytes} {b : UInt8} {ds : Bytes}
      (hletter : letter = ascii 'e' ∨ letter = ascii 'E') (hsign : IsSign sign)
      (hb : isDigit b = true) (hds : AreDigits ds) : IsExponent (letter :: (sign ++ b :: ds))

/-- A number without its sign. -/
inductive IsNumeral : Bytes → Prop
  | mk {whole fraction exponent : Bytes} (hwhole : IsWhole whole) (hfraction : IsFraction fraction)
      (hexponent : IsExponent exponent) : IsNumeral (whole ++ (fraction ++ exponent))

/-- What can follow a value. -/
def isDelimiter (b : UInt8) : Bool :=
  isSpace b || b = ascii ',' || b = ascii ']' || b = ascii '\x7d'

/-- The value before is at its end. -/
def Ends (rest : Bytes) : Prop := ∀ b more, rest = b :: more → isDelimiter b = true

/-- What a delimiter is not. -/
theorem ne_of_isDelimiter {b : UInt8} (hb : isDelimiter b = true) :
    isDigit b = false ∧ b ≠ ascii '.' ∧ b ≠ ascii 'e' ∧ b ≠ ascii 'E' ∧ b ≠ ascii '+' ∧
      b ≠ ascii '-' := by
  simp only [isDelimiter, isSpace, Bool.or_eq_true, decide_eq_true_eq] at hb
  rcases hb with (((((rfl | rfl) | rfl) | rfl) | rfl) | rfl) | rfl <;> decide

/-- What a digit is not. -/
theorem ne_of_isDigit {b : UInt8} (hb : isDigit b = true) :
    isDelimiter b = false ∧ b ≠ ascii 'n' ∧ b ≠ ascii 't' ∧ b ≠ ascii 'f' ∧ b ≠ ascii '-' := by
  refine ⟨?_, ?_, ?_, ?_, ?_⟩
  · cases hdelimiter : isDelimiter b with
    | false => rfl
    | true =>
      rw [(ne_of_isDelimiter hdelimiter).1] at hb
      cases hb
  all_goals
    rintro rfl
    exact absurd hb (by decide)

theorem IsNumeral.exists_head {digits : Bytes} (h : IsNumeral digits) :
    ∃ b ds, digits = b :: ds ∧ isDigit b = true := by
  cases h with
  | mk hwhole hfraction hexponent =>
    cases hwhole with
    | zero => exact ⟨_, _, rfl, by decide⟩
    | digits hb hzero hds => exact ⟨_, _, rfl, hb⟩

theorem Ends.digitNext {rest : Bytes} (h : Ends rest) : digitNext rest = false := by
  cases rest with
  | nil => rfl
  | cons b more => exact (ne_of_isDelimiter (h b more rfl)).1

/-! ### Runs of digits -/

theorem digitNext_append {rest : Bytes} (hrest : digitNext rest = false) (input : Bytes) :
    digitNext (input ++ rest) = digitNext input := by
  cases input with
  | nil => exact hrest
  | cons b input => rfl

theorem dropWhile_of_digitNext {rest : Bytes} (hrest : digitNext rest = false) :
    rest.dropWhile isDigit = rest := by
  cases rest with
  | nil => rfl
  | cons b more =>
    apply List.dropWhile_cons_of_neg
    rw [show isDigit b = false from hrest]
    exact Bool.false_ne_true

theorem dropWhile_append_of_digitNext {rest : Bytes} (hrest : digitNext rest = false)
    (input : Bytes) :
    (input ++ rest).dropWhile isDigit = input.dropWhile isDigit ++ rest := by
  induction input with
  | nil => exact dropWhile_of_digitNext hrest
  | cons b input ih =>
    rw [List.cons_append, List.dropWhile_cons, List.dropWhile_cons]
    split
    · exact ih
    · rfl

theorem takeWhile_append_of_digitNext {rest : Bytes} (hrest : digitNext rest = false)
    (input : Bytes) :
    (input ++ rest).takeWhile isDigit = input.takeWhile isDigit := by
  have hsplit := List.takeWhile_append_dropWhile (p := isDigit) (l := input ++ rest)
  rw [dropWhile_append_of_digitNext hrest, ← List.append_assoc] at hsplit
  have hsame : (input ++ rest).takeWhile isDigit ++ input.dropWhile isDigit =
      input.takeWhile isDigit ++ input.dropWhile isDigit := by
    rw [List.append_cancel_right hsplit, List.takeWhile_append_dropWhile]
  exact List.append_cancel_right hsame

theorem AreDigits.dropWhile_append {ds rest : Bytes} (hds : AreDigits ds)
    (hrest : digitNext rest = false) : (ds ++ rest).dropWhile isDigit = rest := by
  rw [List.dropWhile_append_of_pos hds, dropWhile_of_digitNext hrest]

theorem exists_digits (input : Bytes) :
    ∃ ds, AreDigits ds ∧ input = ds ++ input.dropWhile isDigit :=
  ⟨input.takeWhile isDigit, List.all_eq_true.1 List.all_takeWhile,
    List.takeWhile_append_dropWhile.symm⟩

/-! ### Passing over a numeral -/

theorem skipMaybeExponent_append {exponent rest : Bytes} (h : IsExponent exponent)
    (hrest : Ends rest) : skipMaybeExponent (exponent ++ rest) = .ok rest := by
  cases h with
  | absent =>
    cases rest with
    | nil => rfl
    | cons b more =>
      obtain ⟨-, -, he, hE, -⟩ := ne_of_isDelimiter (hrest b more rfl)
      rw [List.nil_append, skipMaybeExponent]
      simp [he, hE]
  | @present letter sign b ds hletter hsign hb hds =>
    have hdigits : skipExponent (sign ++ (b :: ds) ++ rest) = .ok rest := by
      have hleft := hds.dropWhile_append hrest.digitNext
      cases hsign with
      | absent =>
        have hplus : b ≠ ascii '+' := by
          rintro rfl
          exact absurd hb (by decide)
        have hminus : b ≠ ascii '-' := by
          rintro rfl
          exact absurd hb (by decide)
        simp [skipExponent, hplus, hminus, hb, hleft]
      | plus => simp [skipExponent, hb, hleft]
      | minus => simp [skipExponent, hb, hleft]
    rw [List.cons_append, skipMaybeExponent, ← hdigits]
    simp [hletter]

section
variable {fraction exponent rest : Bytes}

/-- An exponent and what follows begin neither with a digit nor with a point. -/
theorem IsExponent.head_ne (h : IsExponent exponent) (hrest : Ends rest) {b : UInt8}
    {more : Bytes} (hhead : exponent ++ rest = b :: more) : isDigit b = false ∧ b ≠ ascii '.' := by
  cases h with
  | absent =>
    obtain ⟨hdigit, hpoint, -⟩ := ne_of_isDelimiter (hrest b more hhead)
    exact ⟨hdigit, hpoint⟩
  | present hletter hsign hb hds =>
    rw [List.cons_append] at hhead
    obtain ⟨rfl, -⟩ := List.cons.inj hhead
    rcases hletter with rfl | rfl
    · decide
    · decide

theorem IsExponent.digitNext_append (h : IsExponent exponent) (hrest : Ends rest) :
    digitNext (exponent ++ rest) = false := by
  cases hinput : exponent ++ rest with
  | nil => rfl
  | cons b more => exact (h.head_ne hrest hinput).1

theorem IsFraction.digitNext_append (hfraction : IsFraction fraction)
    (hexponent : IsExponent exponent) (hrest : Ends rest) :
    digitNext (fraction ++ (exponent ++ rest)) = false := by
  cases hfraction with
  | absent => exact hexponent.digitNext_append hrest
  | present hb hds => rfl

theorem skipAfterInteger_append (hfraction : IsFraction fraction)
    (hexponent : IsExponent exponent) (hrest : Ends rest) :
    skipAfterInteger (fraction ++ (exponent ++ rest)) = .ok rest := by
  have hlast := skipMaybeExponent_append hexponent hrest
  cases hfraction with
  | absent =>
    rw [List.nil_append]
    cases hinput : exponent ++ rest with
    | nil =>
      rw [hinput] at hlast
      exact hlast
    | cons b more =>
      rw [hinput] at hlast
      rw [skipAfterInteger, if_neg (hexponent.head_ne hrest hinput).2, hlast]
  | @present b ds hb hds =>
    have hleft := hds.dropWhile_append (hexponent.digitNext_append hrest)
    simp only [List.cons_append, skipAfterInteger, if_pos, digitNext, hb,
      List.dropWhile_cons_of_pos, hleft, hlast]

end

/-- The scan goes to the end of a numeral. -/
theorem skipNumber_append {ds rest : Bytes} (h : IsNumeral ds) (hrest : Ends rest) :
    skipNumber (ds ++ rest) = .ok rest := by
  cases h with
  | mk hwhole hfraction hexponent =>
    have hnext := hfraction.digitNext_append hexponent hrest
    have hlast := skipAfterInteger_append hfraction hexponent hrest
    rw [List.append_assoc, List.append_assoc]
    cases hwhole with
    | zero => rw [List.singleton_append, skipNumber, if_pos rfl, hnext, if_neg Bool.false_ne_true, hlast]
    | digits hb hzero hds =>
      rw [List.cons_append, skipNumber, if_neg hzero, if_pos hb, hds.dropWhile_append hnext, hlast]

/-- Passes over the digits of an exponent. -/
def skipExponentDigits : Bytes → Except Stop Bytes
  | [] => stopBefore .invalidNumber []
  | b :: rest => if isDigit b then .ok (rest.dropWhile isDigit) else stopBefore .invalidNumber rest

theorem skipExponent_cons (b : UInt8) (rest : Bytes) :
    skipExponent (b :: rest) =
      if b = ascii '+' ∨ b = ascii '-' then skipExponentDigits rest
      else skipExponentDigits (b :: rest) := by
  by_cases hsign : b = ascii '+' ∨ b = ascii '-'
  · simp only [skipExponent, Bool.or_eq_true, decide_eq_true_eq, if_pos hsign]
    rfl
  · simp only [skipExponent, Bool.or_eq_true, decide_eq_true_eq, if_neg hsign]
    rfl

theorem exists_digits_of_skipExponentDigits {input rest : Bytes}
    (h : skipExponentDigits input = .ok rest) :
    ∃ b ds, isDigit b = true ∧ AreDigits ds ∧ input = b :: ds ++ rest := by
  cases input with
  | nil => cases h
  | cons b more =>
    rw [skipExponentDigits] at h
    split at h
    · next hb =>
      cases h
      obtain ⟨ds, hds, hmore⟩ := exists_digits more
      exact ⟨b, ds, hb, hds, congrArg (b :: ·) hmore⟩
    · cases h

theorem exists_exponent_of_skipExponent {input rest : Bytes} (h : skipExponent input = .ok rest) :
    ∃ sign b ds, IsSign sign ∧ isDigit b = true ∧ AreDigits ds ∧
      input = sign ++ b :: ds ++ rest := by
  cases input with
  | nil => cases h
  | cons b more =>
    rw [skipExponent_cons] at h
    split at h
    · next hsign =>
      obtain ⟨c, ds, hc, hds, hmore⟩ := exists_digits_of_skipExponentDigits h
      rcases hsign with rfl | rfl
      · exact ⟨_, c, ds, .plus, hc, hds, congrArg _ hmore⟩
      · exact ⟨_, c, ds, .minus, hc, hds, congrArg _ hmore⟩
    · obtain ⟨c, ds, hc, hds, hinput⟩ := exists_digits_of_skipExponentDigits h
      exact ⟨_, c, ds, .absent, hc, hds, hinput⟩

theorem exists_exponent_of_skipMaybeExponent {input rest : Bytes}
    (h : skipMaybeExponent input = .ok rest) :
    ∃ exponent, IsExponent exponent ∧ input = exponent ++ rest := by
  cases input with
  | nil =>
    cases h
    exact ⟨[], .absent, rfl⟩
  | cons b more =>
    rw [skipMaybeExponent] at h
    split at h
    · next hletter =>
      simp only [Bool.or_eq_true, decide_eq_true_eq] at hletter
      obtain ⟨sign, c, ds, hsign, hc, hds, hmore⟩ := exists_exponent_of_skipExponent h
      exact ⟨_, .present hletter hsign hc hds, congrArg (b :: ·) hmore⟩
    · cases h
      exact ⟨[], .absent, rfl⟩

theorem exists_fraction_of_skipAfterInteger {input rest : Bytes}
    (h : skipAfterInteger input = .ok rest) :
    ∃ fraction exponent, IsFraction fraction ∧ IsExponent exponent ∧
      input = fraction ++ exponent ++ rest := by
  cases input with
  | nil =>
    cases h
    exact ⟨[], [], .absent, .absent, rfl⟩
  | cons b more =>
    rw [skipAfterInteger] at h
    split at h
    · next hpoint =>
      cases more with
      | nil => cases h
      | cons c more =>
        by_cases hc : isDigit c = true
        · simp only [digitNext, hc, if_pos, List.dropWhile_cons_of_pos] at h
          obtain ⟨ds, hds, hmore⟩ := exists_digits more
          obtain ⟨exponent, hexponent, hleft⟩ := exists_exponent_of_skipMaybeExponent h
          refine ⟨_, exponent, .present hc hds, hexponent, ?_⟩
          rw [hpoint, hmore, hleft]
          simp
        · rw [digitNext, if_neg hc] at h
          cases h
    · obtain ⟨exponent, hexponent, hinput⟩ := exists_exponent_of_skipMaybeExponent h
      exact ⟨[], exponent, .absent, hexponent, hinput⟩

/-- What the scan passes over is a numeral. -/
theorem exists_numeral_of_skipNumber {input rest : Bytes} (h : skipNumber input = .ok rest) :
    ∃ ds, IsNumeral ds ∧ input = ds ++ rest := by
  cases input with
  | nil => cases h
  | cons b more =>
    rw [skipNumber] at h
    split at h
    · next hzero =>
      split at h
      · cases h
      · obtain ⟨fraction, exponent, hfraction, hexponent, hmore⟩ :=
          exists_fraction_of_skipAfterInteger h
        exact ⟨_, .mk .zero hfraction hexponent, by rw [hzero, hmore]; rfl⟩
    · next hzero =>
      split at h
      · next hb =>
        obtain ⟨ds, hds, hmore⟩ := exists_digits more
        obtain ⟨fraction, exponent, hfraction, hexponent, hleft⟩ :=
          exists_fraction_of_skipAfterInteger h
        refine ⟨_, .mk (.digits hb hzero hds) hfraction hexponent, ?_⟩
        rw [hmore, hleft]
        simp
      · cases h

/-! ### Reading a numeral -/

/-- A reader and a scan for the same thing: they go equally far, and what follows a value makes
    no difference to it. -/
structure Matches {α : Type} (read : Bytes → Except Stop (α × Bytes))
    (skip : Bytes → Except Stop Bytes) : Prop where
  skip_of_read : ∀ {input v rest}, read input = .ok (v, rest) → skip input = .ok rest
  read_append : ∀ input {rest}, Ends rest →
    (read (input ++ rest)).toOption = (read input).toOption.map fun p => (p.1, p.2 ++ rest)

section
variable {rest : Bytes} (hrest : digitNext rest = false)
include hrest

theorem takeDigits_of_digitNext (n count : Nat) : takeDigits n count rest = (n, count, rest) := by
  cases rest with
  | nil => rfl
  | cons b more =>
    rw [takeDigits, show isDigit b = false from hrest]
    rfl

theorem takeDigits_append (n count : Nat) (input : Bytes) :
    takeDigits n count (input ++ rest) =
      ((takeDigits n count input).1, (takeDigits n count input).2.1,
        (takeDigits n count input).2.2 ++ rest) := by
  induction input generalizing n count with
  | nil => exact takeDigits_of_digitNext hrest n count
  | cons b input ih =>
    rw [List.cons_append, takeDigits, takeDigits]
    split
    · exact ih _ _
    · rfl

theorem exponentDigits_append (n : Nat) (input : Bytes) :
    exponentDigits n (input ++ rest) =
      ((exponentDigits n input).1, (exponentDigits n input).2 ++ rest) := by
  induction input generalizing n with
  | nil =>
    cases rest with
    | nil => rfl
    | cons b more =>
      change exponentDigits n (b :: more) = (some n, b :: more)
      rw [exponentDigits, show isDigit b = false from hrest]
      rfl
  | cons b input ih =>
    rw [List.cons_append, exponentDigits, exponentDigits]
    split
    · split
      · exact ih _
      · rfl
    · rfl

end

theorem dropWhile_takeDigits (n count : Nat) (input : Bytes) :
    (takeDigits n count input).2.2.dropWhile isDigit = input.dropWhile isDigit := by
  induction input generalizing n count with
  | nil => rfl
  | cons b input ih =>
    rw [takeDigits]
    split
    · next hb =>
      have hdigit : isDigit b = true := (Bool.and_eq_true_iff.1 hb).1
      rw [ih, List.dropWhile_cons_of_pos hdigit]
    · rfl

/-- The digits of an exponent are read to their end, unless they come to too much. -/
theorem exponentDigits_eq (n : Nat) (input : Bytes) :
    (exponentDigits n input).2.dropWhile isDigit = input.dropWhile isDigit ∧
      ((exponentDigits n input).1.isSome → (exponentDigits n input).2 = input.dropWhile isDigit) := by
  induction input generalizing n with
  | nil => exact ⟨rfl, fun _ => rfl⟩
  | cons b input ih =>
    rw [exponentDigits]
    by_cases hb : isDigit b = true
    · rw [if_pos hb, List.dropWhile_cons_of_pos hb]
      split
      · exact ih _
      · exact ⟨rfl, fun h => by cases h⟩
    · rw [if_neg hb, List.dropWhile_cons_of_neg hb]
      exact ⟨rfl, fun _ => rfl⟩

theorem eq_of_finishReal {negative : Bool} {n : Nat} {power : Int} {input rest : Bytes}
    {v : Number} (h : finishReal negative n power input = .ok (v, rest)) : input = rest := by
  unfold finishReal at h
  split at h
  · cases h
    rfl
  · cases h

theorem finishReal_append (negative : Bool) (n : Nat) (power : Int) (input rest : Bytes) :
    (finishReal negative n power (input ++ rest)).toOption =
      (finishReal negative n power input).toOption.map fun p => (p.1, p.2 ++ rest) := by
  unfold finishReal
  cases scaled negative n power with
  | none => rfl
  | some x => rfl

/-- Reads the digits of an exponent and ends the float. -/
def exponentValue (negative : Bool) (n : Nat) (power : Int) (down : Bool) :
    Bytes → Except Stop (Number × Bytes)
  | [] => stopBefore .endInValue []
  | b :: rest =>
    if isDigit b then
      match exponentDigits (digitValue b) rest with
      | (some e, rest) => finishReal negative n (if down then power - e else power + e) rest
      | (none, rest) =>
        if n ≠ 0 ∧ down = false then stopBefore .numberOutOfRange rest
        else .ok (.real (Binary64.zero negative), rest.dropWhile isDigit)
    else stopBefore .invalidNumber rest

theorem exponentPart_cons (negative : Bool) (n : Nat) (power : Int) (b : UInt8) (rest : Bytes) :
    exponentPart negative n power (b :: rest) =
      if b = ascii '+' then exponentValue negative n power false rest
      else if b = ascii '-' then exponentValue negative n power true rest
      else exponentValue negative n power false (b :: rest) := by
  unfold exponentPart
  dsimp only
  by_cases hplus : b = ascii '+'
  · rw [if_pos hplus, if_pos hplus]
    rfl
  · by_cases hminus : b = ascii '-'
    · rw [if_neg hplus, if_neg hplus, if_pos hminus, if_pos hminus]
      rfl
    · rw [if_neg hplus, if_neg hplus, if_neg hminus, if_neg hminus]
      rfl

theorem matches_exponentValue (negative : Bool) (n : Nat) (power : Int) (down : Bool) :
    Matches (exponentValue negative n power down) skipExponentDigits := by
  constructor
  · intro input v rest h
    cases input with
    | nil => cases h
    | cons b more =>
      rw [exponentValue] at h
      rw [skipExponentDigits]
      split at h
      · next hb =>
        obtain ⟨hdrop, hall⟩ := exponentDigits_eq (digitValue b) more
        rw [if_pos hb]
        split at h
        · next e left heq =>
          rw [heq] at hall
          have hleft : left = more.dropWhile isDigit := hall rfl
          rw [← eq_of_finishReal h, hleft]
        · next left heq =>
          rw [heq] at hdrop
          split at h
          · cases h
          · cases h
            rw [hdrop]
      · cases h
  · intro input rest hrest
    cases input with
    | nil =>
      cases rest with
      | nil => rfl
      | cons b more =>
        change (exponentValue negative n power down (b :: more)).toOption = none
        rw [exponentValue, show isDigit b = false from hrest.digitNext]
        rfl
    | cons b more =>
      rw [List.cons_append, exponentValue, exponentValue, exponentDigits_append hrest.digitNext]
      split
      · rcases exponentDigits (digitValue b) more with ⟨_ | e, left⟩
        · dsimp only
          split
          · rfl
          · rw [dropWhile_append_of_digitNext hrest.digitNext]
            rfl
        · exact finishReal_append _ _ _ _ _
      · rfl

theorem matches_exponentPart (negative : Bool) (n : Nat) (power : Int) :
    Matches (exponentPart negative n power) skipExponent := by
  have hvalue := matches_exponentValue negative n power
  constructor
  · intro input v rest h
    cases input with
    | nil => cases h
    | cons b more =>
      rw [exponentPart_cons] at h
      rw [skipExponent_cons]
      by_cases hplus : b = ascii '+'
      · rw [if_pos hplus] at h
        rw [if_pos (Or.inl hplus), (hvalue false).skip_of_read h]
      · rw [if_neg hplus] at h
        by_cases hminus : b = ascii '-'
        · rw [if_pos hminus] at h
          rw [if_pos (Or.inr hminus), (hvalue true).skip_of_read h]
        · rw [if_neg hminus] at h
          rw [if_neg (not_or.2 ⟨hplus, hminus⟩), (hvalue false).skip_of_read h]
  · intro input rest hrest
    cases input with
    | nil =>
      cases rest with
      | nil => rfl
      | cons b more =>
        obtain ⟨hdigit, -, -, -, hplus, hminus⟩ := ne_of_isDelimiter (hrest b more rfl)
        rw [List.nil_append, exponentPart_cons, if_neg hplus, if_neg hminus, exponentValue, hdigit]
        rfl
    | cons b more =>
      rw [List.cons_append, exponentPart_cons, exponentPart_cons]
      split
      · exact (hvalue false).read_append more hrest
      · split
        · exact (hvalue true).read_append more hrest
        · exact (hvalue false).read_append (b :: more) hrest

theorem matches_afterDigits (negative : Bool) (n : Nat) (power : Int) :
    Matches (afterDigits negative n power) skipMaybeExponent := by
  have hexponent := matches_exponentPart negative n power
  constructor
  · intro input v rest h
    cases input with
    | nil => rw [← eq_of_finishReal h, skipMaybeExponent]
    | cons b more =>
      rw [afterDigits] at h
      rw [skipMaybeExponent]
      split at h
      · next hletter => rw [if_pos hletter, hexponent.skip_of_read h]
      · next hletter => rw [if_neg hletter, eq_of_finishReal h]
  · intro input rest hrest
    cases input with
    | nil =>
      cases rest with
      | nil => exact finishReal_append negative n power [] []
      | cons b more =>
        obtain ⟨-, -, he, hE, -⟩ := ne_of_isDelimiter (hrest b more rfl)
        have hletter : (decide (b = ascii 'e') || decide (b = ascii 'E')) = false := by
          simp [he, hE]
        rw [afterDigits, ← finishReal_append, List.nil_append, afterDigits, hletter]
        rfl
    | cons b more =>
      rw [List.cons_append, afterDigits, afterDigits]
      split
      · exact hexponent.read_append more hrest
      · exact finishReal_append negative n power (b :: more) rest

/-- Passes over a fraction after its point, and an exponent. -/
def skipFraction (input : Bytes) : Except Stop Bytes :=
  if digitNext input then skipMaybeExponent (input.dropWhile isDigit)
  else stopOn .invalidNumber input

theorem matches_fractionPart (negative : Bool) (n : Nat) (power : Int) :
    Matches (fractionPart negative n power) skipFraction := by
  constructor
  · intro input v rest h
    rw [fractionPart] at h
    dsimp only at h
    split at h
    · cases h
    · next hsome =>
      have hnext : digitNext input = true := by
        cases hnext : digitNext input with
        | true => rfl
        | false =>
          rw [takeDigits_of_digitNext hnext] at hsome
          exact absurd ⟨rfl, hnext⟩ hsome
      rw [dropWhile_takeDigits] at h
      rw [skipFraction, if_pos hnext]
      exact (matches_afterDigits _ _ _).skip_of_read h
  · intro input rest hrest
    rw [fractionPart, fractionPart, takeDigits_append hrest.digitNext]
    dsimp only
    rw [digitNext_append hrest.digitNext, dropWhile_append_of_digitNext hrest.digitNext]
    split
    · rfl
    · exact (matches_afterDigits _ _ _).read_append _ hrest

theorem exists_finishWhole (negative : Bool) (n : Nat) :
    ∃ v, ∀ rest, finishWhole negative n rest = (v, rest) := by
  refine ⟨(finishWhole negative n []).1, ?_⟩
  intro rest
  unfold finishWhole
  split
  · split
    · rfl
    · split
      · rfl
      · rfl
  · rfl

theorem matches_afterInteger (negative : Bool) (n : Nat) :
    Matches (afterInteger negative n) skipAfterInteger := by
  obtain ⟨v, hfinish⟩ := exists_finishWhole negative n
  constructor
  · intro input v rest h
    cases input with
    | nil =>
      rw [afterInteger, hfinish] at h
      cases h
      rfl
    | cons b more =>
      rw [afterInteger] at h
      rw [skipAfterInteger]
      split at h
      · next hpoint =>
        rw [if_pos hpoint]
        exact (matches_fractionPart _ _ _).skip_of_read h
      · next hpoint =>
        rw [if_neg hpoint, skipMaybeExponent]
        split at h
        · next hletter =>
          rw [if_pos hletter]
          exact (matches_exponentPart _ _ _).skip_of_read h
        · next hletter =>
          rw [hfinish] at h
          cases h
          rw [if_neg hletter]
  · intro input rest hrest
    cases input with
    | nil =>
      have hwhole : afterInteger negative n rest = .ok (finishWhole negative n rest) := by
        cases rest with
        | nil => rfl
        | cons b more =>
          obtain ⟨-, hpoint, he, hE, -⟩ := ne_of_isDelimiter (hrest b more rfl)
          have hletter : (decide (b = ascii 'e') || decide (b = ascii 'E')) = false := by
            simp [he, hE]
          rw [afterInteger, if_neg hpoint, hletter]
          rfl
      rw [List.nil_append, hwhole, hfinish, afterInteger, hfinish]
      rfl
    | cons b more =>
      rw [List.cons_append, afterInteger, afterInteger]
      split
      · exact (matches_fractionPart _ _ _).read_append more hrest
      · split
        · exact (matches_exponentPart _ _ _).read_append more hrest
        · rw [hfinish, hfinish (b :: more)]
          rfl

theorem matches_afterLongInteger (negative : Bool) (n : Nat) :
    Matches (afterLongInteger negative n)
      (fun input => skipAfterInteger (input.dropWhile isDigit)) := by
  constructor
  · intro input v rest h
    rw [afterLongInteger] at h
    cases hleft : input.dropWhile isDigit with
    | nil =>
      rw [hleft] at h
      rw [← eq_of_finishReal h, skipAfterInteger]
    | cons b more =>
      rw [hleft] at h
      dsimp only at h
      rw [skipAfterInteger]
      split at h
      · next hpoint =>
        rw [if_pos hpoint]
        exact (matches_fractionPart _ _ _).skip_of_read h
      · next hpoint =>
        rw [if_neg hpoint]
        exact (matches_afterDigits _ _ _).skip_of_read h
  · intro input rest hrest
    rw [afterLongInteger, afterLongInteger, takeWhile_append_of_digitNext hrest.digitNext,
      dropWhile_append_of_digitNext hrest.digitNext]
    cases input.dropWhile isDigit with
    | nil =>
      cases rest with
      | nil => exact finishReal_append _ _ _ [] []
      | cons b more =>
        have hpoint := (ne_of_isDelimiter (hrest b more rfl)).2.1
        rw [List.nil_append]
        dsimp only
        rw [if_neg hpoint]
        exact (matches_afterDigits _ _ _).read_append [] hrest
    | cons b more =>
      rw [List.cons_append]
      dsimp only
      split
      · exact (matches_fractionPart _ _ _).read_append more hrest
      · exact (matches_afterDigits _ _ _).read_append (b :: more) hrest

/-- The reader goes as far as the scan, and what follows makes no difference to the value. -/
theorem matches_numberBody (negative : Bool) : Matches (numberBody negative) skipNumber := by
  constructor
  · intro input v rest h
    cases input with
    | nil => cases h
    | cons b more =>
      rw [numberBody] at h
      rw [skipNumber]
      split at h
      · next hzero =>
        rw [if_pos hzero]
        split at h
        · cases h
        · next hnext =>
          rw [if_neg hnext]
          exact (matches_afterInteger _ _).skip_of_read h
      · next hzero =>
        rw [if_neg hzero]
        split at h
        · next hb =>
          rw [if_pos hb, ← dropWhile_takeDigits (digitValue b) 1 more]
          dsimp only at h
          split at h
          · exact (matches_afterLongInteger _ _).skip_of_read h
          · next hnext =>
            rw [Bool.not_eq_true] at hnext
            rw [dropWhile_of_digitNext hnext]
            exact (matches_afterInteger _ _).skip_of_read h
        · cases h
  · intro input rest hrest
    cases input with
    | nil =>
      cases rest with
      | nil => rfl
      | cons b more =>
        have hdigit : isDigit b = false := hrest.digitNext
        have hzero : b ≠ ascii '0' := by
          rintro rfl
          exact absurd hdigit (by decide)
        change (numberBody negative (b :: more)).toOption = none
        rw [numberBody, if_neg hzero, hdigit]
        rfl
    | cons b more =>
      rw [List.cons_append, numberBody, numberBody, digitNext_append hrest.digitNext,
        takeDigits_append hrest.digitNext]
      dsimp only
      rw [digitNext_append hrest.digitNext]
      split
      · split
        · rfl
        · exact (matches_afterInteger _ _).read_append more hrest
      · split
        · split
          · exact (matches_afterLongInteger _ _).read_append _ hrest
          · exact (matches_afterInteger _ _).read_append _ hrest
        · rfl

/-! ### Values -/

/-- The value of a numeral, unless it is out of range. -/
def numeralValue? (negative : Bool) (digits : Bytes) : Option Number :=
  (numberBody negative digits).toOption.map (·.1)

/-- **Reading a number:** the value of the numeral, if it has one. -/
theorem toOption_numberBody {ds rest : Bytes} (h : IsNumeral ds) (hrest : Ends rest)
    (negative : Bool) :
    (numberBody negative (ds ++ rest)).toOption =
      (numeralValue? negative ds).map fun n => (n, rest) := by
  rw [(matches_numberBody negative).read_append ds hrest, numeralValue?]
  cases hread : numberBody negative ds with
  | error stop => rfl
  | ok p =>
    obtain ⟨n, left⟩ := p
    -- the numeral is read to its end
    have hskip := (matches_numberBody negative).skip_of_read hread
    have hall : skipNumber (ds ++ []) = .ok [] := skipNumber_append h fun _ _ hnil => by cases hnil
    rw [List.append_nil, hskip] at hall
    cases hall
    rfl

end NetDelegate.Json
