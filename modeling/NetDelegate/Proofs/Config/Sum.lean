/-
  NetDelegate/Proofs/Config/Sum.lean
  ==================================
  **A span of time is read as a sum.**  What a text makes of a span does not depend on the span: it
  is a list of seconds and nanoseconds to add, and the issue at which reading stops, if it does
  (`Duration.Reading`).  To read a text is to add these up, from the first on
  (`Duration.parse_eq`).  All additions are checked but one: nanoseconds that come to one second
  exactly are not carried before the seconds are compared with the limit, so that it goes
  unnoticed when the last second does not fit (`Duration.plus_eq_overflow_iff`).  Nowhere else
  does reading overflow (`Duration.parse_eq_overflow_iff`).
-/
import NetDelegate.Proofs.Config.Failure

namespace NetDelegate

namespace Duration

/-! ### One addition -/

theorem word_bind_eq_overflow_iff {α : Type} {n : Nat} {f : Nat → Except Issue α} :
    (word n >>= f) = .error .overflow ↔ n < wordLimit ∧ f n = .error .overflow := by
  unfold word
  split
  · next hn =>
    constructor
    · intro h
      exact ⟨hn, h⟩
    · intro h
      exact h.2
  · next hn =>
    constructor
    · intro h
      cases h
    · intro h
      exact absurd h.1 hn

theorem ofParts?_eq_none_iff {seconds nanos : Nat} :
    ofParts? seconds nanos = none ↔ wordLimit ≤ seconds + nanos / nanosPerSecond := by
  unfold ofParts?
  split
  · next h =>
    constructor
    · intro hnone
      cases hnone
    · intro hle
      exact absurd h (Nat.not_lt.2 hle)
  · next h =>
    constructor
    · intro _
      exact Nat.le_of_not_lt h
    · intro _
      rfl

/-- **An addition overflows** if its nanoseconds come to one second and its seconds to the last
    number that fits. -/
theorem plus_eq_overflow_iff {d : Duration} {seconds nanos : Nat} :
    d.plus seconds nanos = .error .overflow ↔
      d.nanos + nanos = nanosPerSecond ∧ d.seconds + seconds + 1 = wordLimit := by
  have hsmall : nanosPerSecond < wordLimit := by decide
  have hone : nanosPerSecond / nanosPerSecond = 1 := by decide
  simp only [plus, word_bind_eq_overflow_iff]
  constructor
  · rintro ⟨-, -, hseconds, hparts⟩
    split at hparts
    · cases hparts
    · next hnone =>
      rw [ofParts?_eq_none_iff] at hnone
      by_cases hcarry : nanosPerSecond < d.nanos + nanos
      · -- what the carry leaves is less than a second
        have hleft : (d.nanos + nanos) % nanosPerSecond / nanosPerSecond = 0 :=
          Nat.div_eq_of_lt (Nat.mod_lt _ (by decide))
        simp only [if_pos hcarry, hleft] at hseconds hnone
        omega
      · simp only [if_neg hcarry] at hseconds hnone
        by_cases hsecond : d.nanos + nanos = nanosPerSecond
        · rw [hsecond, hone] at hnone
          exact ⟨hsecond, by omega⟩
        · have hless : (d.nanos + nanos) / nanosPerSecond = 0 := Nat.div_eq_of_lt (by omega)
          rw [hless] at hnone
          omega
  · rintro ⟨hnanos, hseconds⟩
    have hnone : ofParts? (d.seconds + (seconds + 0)) nanosPerSecond = none := by
      rw [ofParts?_eq_none_iff, hone]
      omega
    simp only [hnanos, Nat.lt_irrefl, if_false, hnone, and_true]
    omega

/-! ### Readings -/

/-- What a text makes of any span: seconds and nanoseconds to add one after the other, and the
    issue at which reading stops, if it does not come to the end. -/
structure Reading where
  summands : List (Nat × Nat)
  stop? : Option Issue

namespace Reading

/-- Adds the summands to a span. -/
def sum (r : Reading) (d : Duration) : Except Issue Duration := do
  let d ← r.summands.foldlM (fun d p => d.plus p.1 p.2) d
  match r.stop? with
  | none => .ok d
  | some issue => .error issue

def done : Reading := ⟨[], none⟩

def stopped (issue : Issue) : Reading := ⟨[], some issue⟩

/-- One summand, if it can be worked out. -/
def single : Except Issue (Nat × Nat) → Reading
  | .ok p => ⟨[p], none⟩
  | .error issue => stopped issue

/-- Goes on reading, unless it has stopped. -/
def andThen (r more : Reading) : Reading :=
  match r.stop? with
  | none => ⟨r.summands ++ more.summands, more.stop?⟩
  | some _ => r

theorem sum_single (x : Except Issue (Nat × Nat)) (d : Duration) :
    (single x).sum d = x >>= fun p => d.plus p.1 p.2 := by
  cases x with
  | error issue => rfl
  | ok p =>
    rw [single, sum, List.foldlM_cons]
    change ((d.plus p.1 p.2 >>= fun d => .ok d) >>= fun d => .ok d) = d.plus p.1 p.2
    cases d.plus p.1 p.2 with
    | error issue => rfl
    | ok d => rfl

theorem sum_andThen (r more : Reading) (d : Duration) :
    (r.andThen more).sum d = r.sum d >>= more.sum := by
  obtain ⟨summands, stop⟩ := r
  cases stop with
  | none =>
    change (((summands ++ more.summands).foldlM (fun d p => d.plus p.1 p.2) d) >>= _) = _
    rw [List.foldlM_append]
    unfold sum
    dsimp only
    cases summands.foldlM (fun d p => d.plus p.1 p.2) d with
    | error issue => rfl
    | ok d => rfl
  | some issue =>
    unfold andThen sum
    dsimp only
    cases summands.foldlM (fun d p => d.plus p.1 p.2) d with
    | error issue => rfl
    | ok d => rfl

end Reading

/-- A whole number of units, as seconds and nanoseconds. -/
def wholeSummand (n : Nat) (unit : Measure) : Except Issue (Nat × Nat) :=
  match unit.nanos? with
  | some size => do .ok (0, ← word (n * size))
  | none => do .ok (← word (n * unit.seconds), 0)

/-- A fraction of a unit, as seconds and nanoseconds. -/
def fractionSummand (f : Fraction) (unit : Measure) : Except Issue (Nat × Nat) :=
  match unit.nanos? with
  | some size => if size = 1 then .error .tooLarge else do .ok (0, ← f.times size)
  | none =>
    if unit.isCoarse then do .ok (← f.times unit.seconds, 0)
    else do .ok (0, ← f.times (unit.seconds * nanosPerSecond))

/-- What a number with a unit makes of a span. -/
def termReading (n : Nat) (f : Option Fraction) (unit : List Char) : Reading :=
  match Measure.ofWord? (String.ofList unit) with
  | none =>
    .stopped (if unit = [] then .unitNeeded n else .unknownUnit (String.ofList unit))
  | some unit =>
    (Reading.single (wholeSummand n unit)).andThen
      (match f with
      | none => .done
      | some f => .single (fractionSummand f unit))

/-- What numbers with units make of a span. -/
def termsReading : Nat → List Placed → Reading
  | 0, _ => .done
  | steps + 1, input =>
    match input.dropWhile fun p => isBlank p.2 with
    | [] => .done
    | p :: rest =>
      match digit? p.2 with
      | none => .stopped (.numberExpected ((input.head?.map (·.1)).getD 0))
      | some n =>
        match readNumber n rest with
        | .error issue => .stopped issue
        | .ok (n, f, rest) =>
          match readUnit rest with
          | .error issue => .stopped issue
          | .ok (unit, rest) => (termReading n f unit).andThen (termsReading steps rest)

/-- What a text makes of a span. -/
def reading (s : String) : Reading := termsReading (s.toList.length + 1) (placed 0 s.toList)

theorem plusWhole_eq (d : Duration) (n : Nat) (unit : Measure) :
    d.plusWhole n unit = (Reading.single (wholeSummand n unit)).sum d := by
  rw [Reading.sum_single, plusWhole, wholeSummand]
  cases unit.nanos? with
  | some size =>
    dsimp only
    cases word (n * size) with
    | error issue => rfl
    | ok nanos => rfl
  | none =>
    dsimp only
    cases word (n * unit.seconds) with
    | error issue => rfl
    | ok seconds => rfl

theorem plusFraction_eq (d : Duration) (f : Fraction) (unit : Measure) :
    d.plusFraction f unit = (Reading.single (fractionSummand f unit)).sum d := by
  rw [Reading.sum_single, plusFraction, fractionSummand]
  cases unit.nanos? with
  | some size =>
    dsimp only
    split
    · rfl
    · cases f.times size with
      | error issue => rfl
      | ok nanos => rfl
  | none =>
    dsimp only
    split
    · cases f.times unit.seconds with
      | error issue => rfl
      | ok seconds => rfl
    · cases f.times (unit.seconds * nanosPerSecond) with
      | error issue => rfl
      | ok nanos => rfl

theorem plusTerm_eq (d : Duration) (n : Nat) (f : Option Fraction) (unit : List Char) :
    d.plusTerm n f unit = (termReading n f unit).sum d := by
  unfold plusTerm termReading
  cases Measure.ofWord? (String.ofList unit) with
  | none => rfl
  | some unit =>
    dsimp only
    rw [Reading.sum_andThen, plusWhole_eq]
    congr 1
    funext d
    cases f with
    | none => rfl
    | some f => exact plusFraction_eq d f unit

theorem readTerms_eq (steps : Nat) (d : Duration) (input : List Placed) :
    readTerms steps d input = (termsReading steps input).sum d := by
  induction steps generalizing d input with
  | zero => rfl
  | succ steps ih =>
    rw [readTerms, termsReading]
    cases input.dropWhile fun p => isBlank p.2 with
    | nil => rfl
    | cons p rest =>
      dsimp only
      cases digit? p.2 with
      | none => rfl
      | some n =>
        dsimp only
        cases readNumber n rest with
        | error issue => rfl
        | ok q =>
          obtain ⟨n, f, rest⟩ := q
          dsimp only [bind, Except.bind]
          cases readUnit rest with
          | error issue => rfl
          | ok q =>
            obtain ⟨unit, rest⟩ := q
            dsimp only
            rw [Reading.sum_andThen, ← plusTerm_eq]
            cases d.plusTerm n f unit with
            | error issue => rfl
            | ok d => exact ih d rest

/-- **Reading a span is adding up** what the text makes of it, from nothing. -/
theorem parse_eq {s : String} (hs : isBlankText s = false) : parse s = (reading s).sum zero := by
  rw [parse, hs, reading, ← readTerms_eq]
  rfl

/-! ### Where a sum overflows -/

/-- Any issue but an overflow of a sum. -/
abbrev Issue.IsOfReading (issue : Issue) : Prop := issue ≠ .overflow

theorem failsOnly_word (n : Nat) : FailsOnly Issue.IsOfReading (word n) := by
  unfold word
  split
  · exact failsOnly_ok n
  · exact failsOnly_error nofun

theorem failsOnly_times (f : Fraction) (n : Nat) : FailsOnly Issue.IsOfReading (f.times n) := by
  apply (failsOnly_word _).bind
  intro product
  split
  · exact failsOnly_ok _
  · exact failsOnly_error nofun

theorem failsOnly_readFraction (offset n k : Nat) (input : List Placed) :
    FailsOnly Issue.IsOfReading (readFraction offset n k input) := by
  induction input generalizing offset n k with
  | nil =>
    rw [readFraction]
    split
    · exact failsOnly_error nofun
    · exact failsOnly_ok _
  | cons p rest ih =>
    rw [readFraction]
    split
    · apply (failsOnly_word _).bind
      intro k
      apply (failsOnly_word _).bind
      intro n
      exact ih _ n k
    split
    · exact ih _ n k
    split
    · split
      · exact failsOnly_error nofun
      · exact failsOnly_ok _
    · exact failsOnly_error nofun

theorem failsOnly_readNumber (n : Nat) (input : List Placed) :
    FailsOnly Issue.IsOfReading (readNumber n input) := by
  induction input generalizing n with
  | nil => exact failsOnly_ok _
  | cons p rest ih =>
    rw [readNumber]
    split
    · exact (failsOnly_word _).bind ih
    split
    · exact ih n
    split
    · exact failsOnly_ok _
    split
    · apply (failsOnly_readFraction _ _ _ _).bind
      intro q
      exact failsOnly_ok _
    · exact failsOnly_error nofun

theorem failsOnly_readUnit (input : List Placed) :
    FailsOnly Issue.IsOfReading (readUnit input) := by
  induction input with
  | nil => exact failsOnly_ok _
  | cons p rest ih =>
    rw [readUnit]
    split
    · exact failsOnly_ok _
    split
    · exact failsOnly_ok _
    split
    · apply ih.bind
      intro q
      exact failsOnly_ok _
    · exact failsOnly_error nofun

theorem failsOnly_wholeSummand (n : Nat) (unit : Measure) :
    FailsOnly Issue.IsOfReading (wholeSummand n unit) := by
  unfold wholeSummand
  split
  · exact (failsOnly_word _).bind fun _ => failsOnly_ok _
  · exact (failsOnly_word _).bind fun _ => failsOnly_ok _

theorem failsOnly_fractionSummand (f : Fraction) (unit : Measure) :
    FailsOnly Issue.IsOfReading (fractionSummand f unit) := by
  unfold fractionSummand
  split
  · split
    · exact failsOnly_error nofun
    · exact (failsOnly_times _ _).bind fun _ => failsOnly_ok _
  · split
    · exact (failsOnly_times _ _).bind fun _ => failsOnly_ok _
    · exact (failsOnly_times _ _).bind fun _ => failsOnly_ok _

namespace Reading

/-- If reading stops, it is not for an overflow. -/
def StopsReading (r : Reading) : Prop := ∀ issue, r.stop? = some issue → issue.IsOfReading

theorem stopsReading_done : done.StopsReading := by
  intro issue h
  cases h

theorem stopsReading_stopped {issue : Issue} (h : issue.IsOfReading) :
    (stopped issue).StopsReading := by
  intro issue' h'
  cases h'
  exact h

theorem stopsReading_single {x : Except Issue (Nat × Nat)} (h : FailsOnly Issue.IsOfReading x) :
    (single x).StopsReading := by
  cases x with
  | error issue => exact stopsReading_stopped (h issue rfl)
  | ok p =>
    intro issue hstop
    cases hstop

theorem StopsReading.andThen {r more : Reading} (hr : r.StopsReading)
    (hmore : more.StopsReading) : (r.andThen more).StopsReading := by
  unfold Reading.andThen
  split
  · exact hmore
  · exact hr

end Reading

theorem stopsReading_termReading (n : Nat) (f : Option Fraction) (unit : List Char) :
    (termReading n f unit).StopsReading := by
  unfold termReading
  split
  · apply Reading.stopsReading_stopped
    split
    · exact nofun
    · exact nofun
  · apply (Reading.stopsReading_single (failsOnly_wholeSummand _ _)).andThen
    cases f with
    | none => exact Reading.stopsReading_done
    | some f => exact Reading.stopsReading_single (failsOnly_fractionSummand f _)

theorem stopsReading_termsReading (steps : Nat) (input : List Placed) :
    (termsReading steps input).StopsReading := by
  induction steps generalizing input with
  | zero => exact Reading.stopsReading_done
  | succ steps ih =>
    rw [termsReading]
    split
    · exact Reading.stopsReading_done
    split
    · exact Reading.stopsReading_stopped nofun
    split
    · next issue hnumber =>
      exact Reading.stopsReading_stopped (failsOnly_readNumber _ _ issue hnumber)
    split
    · next issue hunit =>
      exact Reading.stopsReading_stopped (failsOnly_readUnit _ issue hunit)
    · exact (stopsReading_termReading _ _ _).andThen (ih _)

/-- A fold fails at one of its steps, and comes to a value before. -/
theorem foldlM_eq_error_iff {ε α β : Type} {f : β → α → Except ε β} {as : List α} {b : β} {e : ε} :
    as.foldlM f b = .error e ↔ ∃ before a after b', as = before ++ a :: after ∧
      before.foldlM f b = .ok b' ∧ f b' a = .error e := by
  induction as generalizing b with
  | nil =>
    constructor
    · intro h
      cases h
    · rintro ⟨before, a, after, b', has, -⟩
      simp at has
  | cons a as ih =>
    rw [List.foldlM_cons]
    cases hfirst : f b a with
    | error e' =>
      constructor
      · intro h
        cases h
        exact ⟨[], a, as, b, rfl, rfl, hfirst⟩
      · rintro ⟨before, a', after, b', has, hbefore, ha'⟩
        cases before with
        | nil =>
          cases has
          cases hbefore
          rw [hfirst] at ha'
          exact ha'
        | cons c before =>
          obtain ⟨rfl, -⟩ := List.cons.inj has
          rw [List.foldlM_cons, hfirst] at hbefore
          cases hbefore
    | ok b₁ =>
      change as.foldlM f b₁ = .error e ↔ _
      rw [ih]
      constructor
      · rintro ⟨before, a', after, b', rfl, hbefore, ha'⟩
        refine ⟨a :: before, a', after, b', rfl, ?_, ha'⟩
        rw [List.foldlM_cons, hfirst]
        exact hbefore
      · rintro ⟨before, a', after, b', has, hbefore, ha'⟩
        cases before with
        | nil =>
          cases has
          cases hbefore
          rw [hfirst] at ha'
          cases ha'
        | cons c before =>
          obtain ⟨rfl, rfl⟩ := List.cons.inj has
          rw [List.foldlM_cons, hfirst] at hbefore
          exact ⟨before, a', after, b', rfl, hbefore, ha'⟩

/-- The numbers and units of a text add up to 2^64 seconds exactly, in a step that comes to the
    last second that fits and one second of nanoseconds. -/
def Overflows (s : String) : Prop :=
  ∃ before seconds nanos after d, (reading s).summands = before ++ (seconds, nanos) :: after ∧
    before.foldlM (fun d p => d.plus p.1 p.2) zero = .ok d ∧
    d.nanos + nanos = nanosPerSecond ∧ d.seconds + seconds + 1 = wordLimit

theorem reading_of_isBlankText {s : String} (hs : isBlankText s = true) : reading s = .done := by
  have hplaced : ∀ (cs : List Char) (offset : Nat), cs.all isBlank = true →
      (placed offset cs).dropWhile (fun p => isBlank p.2) = [] := by
    intro cs
    induction cs with
    | nil =>
      intro offset _
      rfl
    | cons c cs ih =>
      intro offset h
      rw [List.all_cons, Bool.and_eq_true] at h
      rw [placed, List.dropWhile_cons, if_pos h.1]
      exact ih _ h.2
  rw [reading, termsReading, hplaced s.toList 0 hs]

/-- **Reading a span overflows** just where its sum does. -/
theorem parse_eq_overflow_iff {s : String} : parse s = .error .overflow ↔ Overflows s := by
  cases hs : isBlankText s with
  | true =>
    rw [parse, hs, Overflows, reading_of_isBlankText hs]
    simp [Reading.done]
  | false =>
    have hsum : (reading s).sum zero = .error .overflow ↔
        (reading s).summands.foldlM (fun d p => d.plus p.1 p.2) zero = .error .overflow := by
      have hstops : (reading s).StopsReading := stopsReading_termsReading _ _
      rw [Reading.sum]
      cases (reading s).summands.foldlM (fun d p => d.plus p.1 p.2) zero with
      | error issue => rfl
      | ok d =>
        dsimp only [bind, Except.bind]
        cases hstop : (reading s).stop? with
        | none => simp
        | some issue => simpa using hstops issue hstop
    rw [parse_eq hs, hsum, foldlM_eq_error_iff, Overflows]
    simp only [plus_eq_overflow_iff, Prod.exists]

end Duration

end NetDelegate
