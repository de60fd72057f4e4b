/-
  NetDelegate/Proofs/Config/Span.lean
  ===================================
  **The span that a timeout denotes.**  A timeout is written as a number of seconds, or as numbers
  with units that are added up (`Config.Denotes`).  No text is written in both ways
  (`Duration.stops_of_plain`), and what is read of it is the span that it denotes
  (`Config.denotes_iff_of_parseTimeout`).
-/
import Mathlib.Algebra.GroupWithZero.Nat
import NetDelegate.Proofs.Config.Sum

namespace NetDelegate

namespace Duration

/-! ### The length of a span -/

/-- The length of a span in nanoseconds. -/
def total (d : Duration) : Nat := d.seconds * nanosPerSecond + d.nanos

theorem total_inj {d e : Duration} : d.total = e.total ↔ d = e := by
  constructor
  · intro h
    obtain ⟨seconds, nanos, hseconds, hnanos⟩ := d
    obtain ⟨seconds', nanos', hseconds', hnanos'⟩ := e
    simp only [total, nanosPerSecond] at h hnanos hnanos'
    obtain rfl : seconds = seconds' := by omega
    obtain rfl : nanos = nanos' := by omega
    rfl
  · rintro rfl
    rfl

theorem total_pos_iff {d : Duration} : 0 < d.total ↔ d.isZero = false := by
  simp only [total, isZero, nanosPerSecond, Bool.and_eq_false_iff, decide_eq_false_iff_not]
  omega

theorem total_ofParts? {seconds nanos : Nat} {d : Duration} (h : ofParts? seconds nanos = some d) :
    d.total = seconds * nanosPerSecond + nanos := by
  unfold ofParts? at h
  split at h
  · cases h
    simp only [total, nanosPerSecond]
    omega
  · cases h

theorem total_ofSeconds? {seconds : Nat} {d : Duration} (h : ofSeconds? seconds = some d) :
    d.total = seconds * nanosPerSecond := by
  rw [ofSeconds?] at h
  rw [total_ofParts? h, Nat.add_zero]

theorem word_bind_eq_ok_iff {α : Type} {n : Nat} {f : Nat → Except Issue α} {v : α} :
    (word n >>= f) = .ok v ↔ n < wordLimit ∧ f n = .ok v := by
  unfold word
  split
  · next hn => exact (and_iff_right hn).symm
  · next hn =>
    constructor
    · intro h
      cases h
    · intro h
      exact absurd h.1 hn

/-- An addition that succeeds is exact. -/
theorem total_plus {d e : Duration} {seconds nanos : Nat} (h : d.plus seconds nanos = .ok e) :
    e.total = d.total + (seconds * nanosPerSecond + nanos) := by
  simp only [plus, word_bind_eq_ok_iff] at h
  obtain ⟨-, -, -, hparts⟩ := h
  split at hparts
  · next hsome =>
    cases hparts
    rw [total_ofParts? hsome]
    by_cases hcarry : nanosPerSecond < d.nanos + nanos
    · rw [if_pos hcarry, if_pos hcarry]
      simp only [total, nanosPerSecond]
      omega
    · rw [if_neg hcarry, if_neg hcarry]
      simp only [total, nanosPerSecond]
      omega
  · cases hparts

/-- The length of all that a reading adds. -/
def Reading.total (r : Reading) : Nat :=
  (r.summands.map fun p => p.1 * nanosPerSecond + p.2).sum

theorem total_foldlM {summands : List (Nat × Nat)} {d e : Duration}
    (h : summands.foldlM (fun d p => d.plus p.1 p.2) d = .ok e) :
    e.total = d.total + (summands.map fun p => p.1 * nanosPerSecond + p.2).sum := by
  induction summands generalizing d with
  | nil =>
    rw [List.foldlM_nil] at h
    rw [← Except.ok.inj h, List.map_nil, List.sum_nil, Nat.add_zero]
  | cons p summands ih =>
    rw [List.foldlM_cons] at h
    cases hfirst : d.plus p.1 p.2 with
    | error issue =>
      rw [hfirst] at h
      cases h
    | ok d' =>
      rw [hfirst] at h
      rw [ih h, total_plus hfirst, List.map_cons, List.sum_cons, Nat.add_assoc]

theorem Reading.total_of_sum {r : Reading} {d e : Duration} (h : r.sum d = .ok e) :
    r.stop? = none ∧ e.total = d.total + r.total := by
  unfold sum at h
  cases hsum : r.summands.foldlM (fun d p => d.plus p.1 p.2) d with
  | error issue =>
    rw [hsum] at h
    cases h
  | ok d' =>
    rw [hsum] at h
    cases hstop : r.stop? with
    | some issue =>
      rw [hstop] at h
      cases h
    | none =>
      rw [hstop] at h
      cases h
      exact ⟨rfl, total_foldlM hsum⟩

/-! ### Numbers without a unit -/

theorem digit?_of_isDigit {c : Char} (h : c.isDigit = true) : digit? c = some (c.toNat - 48) := by
  refine if_pos ?_
  simpa [Char.isDigit, Char.le_def] using h

theorem code_of_isDigit {c : Char} (h : c.isDigit = true) : 48 ≤ c.toNat ∧ c.toNat ≤ 57 :=
  Char.isDigit_iff_toNat.1 h

theorem not_isBlank_of_isDigit {c : Char} (h : c.isDigit = true) : isBlank c = false := by
  have hcode := code_of_isDigit h
  simp only [isBlank, Bool.or_eq_false_iff, Bool.and_eq_false_iff, decide_eq_false_iff_not]
  omega

theorem digit_lt_wordLimit {c : Char} (h : c.isDigit = true) : c.toNat - 48 < wordLimit := by
  have hcode := code_of_isDigit h
  unfold wordLimit
  omega

/-- Digits only make a number larger. -/
theorem le_ofDigitChars (cs : List Char) (n : Nat) : n ≤ Nat.ofDigitChars 10 cs n := by
  have hpos : 0 < 10 ^ cs.length := Nat.pow_pos (by decide)
  rw [Nat.ofDigitChars_eq_ofDigitChars_zero]
  exact Nat.le_trans (Nat.le_mul_of_pos_left n hpos) (Nat.le_add_right _ _)

/-- Digits are read as the number that they make, and refused if it does not fit. -/
theorem exists_readNumber_eq {cs : List Char} (h : ∀ c ∈ cs, c.isDigit = true) {n : Nat}
    (hn : n < wordLimit) (offset : Nat) (more : List Char) :
    ∃ past, readNumber n (placed offset (cs ++ more)) =
      if Nat.ofDigitChars 10 cs n < wordLimit then
        readNumber (Nat.ofDigitChars 10 cs n) (placed past more)
      else .error .tooLarge := by
  induction cs generalizing n offset with
  | nil =>
    refine ⟨offset, ?_⟩
    rw [Nat.ofDigitChars_nil, if_pos hn]
    rfl
  | cons c cs ih =>
    obtain ⟨hc, hcs⟩ := List.forall_mem_cons.1 h
    have hnext : Nat.ofDigitChars 10 (c :: cs) n =
        Nat.ofDigitChars 10 cs (n * 10 + (c.toNat - 48)) := by
      rw [Nat.ofDigitChars_cons, Nat.mul_comm]
      rfl
    rw [List.cons_append, placed, readNumber, hnext]
    simp only [digit?_of_isDigit hc, word]
    by_cases hfits : n * 10 + (c.toNat - 48) < wordLimit
    · rw [if_pos hfits]
      exact ih hcs hfits _
    · have htoo : ¬Nat.ofDigitChars 10 cs (n * 10 + (c.toNat - 48)) < wordLimit :=
        fun hlt => hfits (Nat.lt_of_le_of_lt (le_ofDigitChars _ _) hlt)
      refine ⟨0, ?_⟩
      rw [if_neg hfits, if_neg htoo]
      rfl

/-- What a number makes of a span with the unit that follows it, and with what follows that. -/
def afterNumber (steps : Nat) : Except Issue (Nat × Option Fraction × List Placed) → Reading
  | .error issue => .stopped issue
  | .ok (n, f, rest) =>
    match readUnit rest with
    | .error issue => .stopped issue
    | .ok (unit, rest) => (termReading n f unit).andThen (termsReading steps rest)

theorem termsReading_of_isDigit {c : Char} (h : c.isDigit = true) (steps offset : Nat)
    (cs : List Char) :
    termsReading (steps + 1) (placed offset (c :: cs)) =
      afterNumber steps (readNumber (c.toNat - 48) (placed (offset + c.utf8Size) cs)) := by
  rw [placed, termsReading, List.dropWhile_cons_of_neg (by simp [not_isBlank_of_isDigit h])]
  simp only [digit?_of_isDigit h]
  rfl

/-- A text that begins with digits is read as their number and what follows it. -/
theorem exists_reading_eq {s : String} {digits more : List Char} (hne : digits ≠ [])
    (hdigits : ∀ c ∈ digits, c.isDigit = true) (hs : s.toList = digits ++ more) :
    ∃ steps past, reading s = afterNumber steps
      (if Nat.ofDigitChars 10 digits 0 < wordLimit then
        readNumber (Nat.ofDigitChars 10 digits 0) (placed past more)
      else .error .tooLarge) := by
  obtain ⟨c, cs, rfl⟩ := List.exists_cons_of_ne_nil hne
  obtain ⟨hc, hcs⟩ := List.forall_mem_cons.1 hdigits
  have hvalue : Nat.ofDigitChars 10 (c :: cs) 0 = Nat.ofDigitChars 10 cs (c.toNat - 48) := by
    rw [Nat.ofDigitChars_cons, Nat.mul_zero, Nat.zero_add]
    rfl
  obtain ⟨past, hread⟩ := exists_readNumber_eq hcs (digit_lt_wordLimit hc) (0 + c.utf8Size) more
  refine ⟨s.toList.length, past, ?_⟩
  rw [reading, hvalue, ← hread, ← termsReading_of_isDigit hc, ← List.cons_append, ← hs]

/-- A number without a unit is no span. -/
theorem stops_of_plain {s : String} {digits : List Char} (hne : digits ≠ [])
    (hdigits : ∀ c ∈ digits, c.isDigit = true)
    (hs : s.toList = digits ∨ s.toList = '+' :: digits) : (reading s).stop? ≠ none := by
  rcases hs with hs | hs
  · obtain ⟨steps, past, hread⟩ := exists_reading_eq hne hdigits (hs.trans (List.append_nil _).symm)
    rw [hread]
    split
    · exact Option.some_ne_none _
    · exact Option.some_ne_none _
  · have hplus : digit? '+' = none := by decide
    have hblank : isBlank '+' = false := by decide
    rw [reading, hs, termsReading, placed, List.dropWhile_cons_of_neg (by simp [hblank])]
    simp only [hplus]
    exact Option.some_ne_none _

end Duration

namespace Config

/-! ### Timeouts -/

/-- The value of decimal digits. -/
def decimalValue (digits : List Char) : Nat := digits.foldl (fun n c => n * 10 + (c.toNat - 48)) 0

/-- A timeout denotes a span, given in nanoseconds: it is a number of seconds, with a plus sign or
    without, or the sum of numbers with units.  Blanks around it do not count. -/
inductive Denotes (value : String) : Nat → Prop
  | seconds {digits : List Char} (given : digits ≠ []) (decimal : ∀ c ∈ digits, c.isDigit = true)
      (written : (trim value).toList = digits ∨ (trim value).toList = '+' :: digits) :
      Denotes value (decimalValue digits * nanosPerSecond)
  | span (given : isBlankText (trim value) = false)
      (whole : (Duration.reading (trim value)).stop? = none) :
      Denotes value (Duration.reading (trim value)).total

theorem ne_plus_of_digits {digits more : List Char} (h : ∀ c ∈ digits, c.isDigit = true) :
    digits ≠ '+' :: more := by
  rintro rfl
  exact absurd (h '+' List.mem_cons_self) (by decide)

theorem digits_unique {cs digits digits' : List Char} (h : ∀ c ∈ digits, c.isDigit = true)
    (h' : ∀ c ∈ digits', c.isDigit = true) (hcs : cs = digits ∨ cs = '+' :: digits)
    (hcs' : cs = digits' ∨ cs = '+' :: digits') : digits = digits' := by
  rcases hcs with rfl | rfl
  · rcases hcs' with rfl | hplus
    · rfl
    · exact absurd hplus (ne_plus_of_digits h)
  · rcases hcs' with hplus | hsame
    · exact absurd hplus.symm (ne_plus_of_digits h')
    · exact (List.cons.inj hsame).2

theorem total_of_decimal {digits : List Char} {d : Duration}
    (h : (if digits = [] ∨ digits.any (!·.isDigit) then none
      else Duration.ofSeconds? (decimalValue digits)) = some d) :
    digits ≠ [] ∧ (∀ c ∈ digits, c.isDigit = true) ∧
      d.total = decimalValue digits * nanosPerSecond := by
  split at h
  · cases h
  · next hplain =>
    rw [not_or] at hplain
    exact ⟨hplain.1, by simpa using hplain.2, Duration.total_ofSeconds? h⟩

theorem exists_digits_of_plainSeconds? {cs : List Char} {d : Duration}
    (h : plainSeconds? cs = some d) :
    ∃ digits, digits ≠ [] ∧ (∀ c ∈ digits, c.isDigit = true) ∧
      (cs = digits ∨ cs = '+' :: digits) ∧ d.total = decimalValue digits * nanosPerSecond := by
  unfold plainSeconds? at h
  split at h
  · next digits =>
    obtain ⟨hne, hdigits, htotal⟩ := total_of_decimal h
    exact ⟨digits, hne, hdigits, .inr rfl, htotal⟩
  · obtain ⟨hne, hdigits, htotal⟩ := total_of_decimal h
    exact ⟨cs, hne, hdigits, .inl rfl, htotal⟩

/-- **What is read of a timeout is the span that it denotes.** -/
theorem denotes_iff_of_parseTimeout {value : String} {d : Duration} (h : parseTimeout value = .ok d)
    {total : Nat} : Denotes value total ↔ total = d.total := by
  unfold parseTimeout at h
  dsimp only at h
  split at h
  · next d' hplain =>
    cases h
    obtain ⟨digits, hne, hdigits, hwritten, htotal⟩ := exists_digits_of_plainSeconds? hplain
    constructor
    · intro hdenotes
      cases hdenotes with
      | seconds _ hdigits' hwritten' =>
        rw [htotal, digits_unique hdigits' hdigits hwritten' hwritten]
      | span _ hwhole => exact absurd hwhole (Duration.stops_of_plain hne hdigits hwritten)
    · rintro rfl
      rw [htotal]
      exact .seconds hne hdigits hwritten
  · split at h
    · next d' hparse =>
      cases h
      have hgiven : isBlankText (trim value) = false := by
        refine Bool.eq_false_iff.2 fun hblank => ?_
        rw [Duration.parse, if_pos hblank] at hparse
        cases hparse
      rw [Duration.parse_eq hgiven] at hparse
      obtain ⟨hwhole, htotal⟩ := Duration.Reading.total_of_sum hparse
      have hzero : Duration.zero.total = 0 := rfl
      rw [hzero, Nat.zero_add] at htotal
      constructor
      · intro hdenotes
        cases hdenotes with
        | seconds hne hdigits hwritten =>
          exact absurd hwhole (Duration.stops_of_plain hne hdigits hwritten)
        | span _ _ => exact htotal.symm
      · rintro rfl
        rw [htotal]
        exact .span hgiven hwhole
    · cases h
    · cases h

end Config

end NetDelegate
