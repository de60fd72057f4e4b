/-
  NetDelegate/Proofs/Config/Seconds.lean
  ======================================
  **A number of seconds has two spellings,** bare and with the unit (`SpellsSeconds`).  A bare
  number is read at once if it fits 64 bits; else it is read as a span, where it does not fit
  either.  A number with the unit is always read as a span.  So both spellings come to the same
  (`parseTimeout_of_spellsSeconds`), whatever the number is.  For the rest of a configuration only
  the timeout that was read counts, and not how it was spelled (`ofConfVisiting_withTimeout`).
-/
import NetDelegate.Proofs.Config.RoundTrip
import NetDelegate.Proofs.Config.WellFormed
import NetDelegate.Proofs.Text.Lowercase

namespace NetDelegate

/-! ### Decimal digits -/

/-- A number in decimal digits, with zeros before them. -/
def decimal (zeros n : Nat) : List Char := List.replicate zeros '0' ++ Json.Number.decimalDigits n

theorem isDigit_of_mem_decimal {zeros n : Nat} {c : Char} (h : c ∈ decimal zeros n) :
    c.isDigit = true := by
  rcases List.mem_append.1 h with hzero | hdigit
  · rw [List.eq_of_mem_replicate hzero]
    rfl
  · exact Nat.isDigit_of_mem_toDigits (by decide) (by decide) hdigit

theorem decimal_ne_nil (zeros n : Nat) : decimal zeros n ≠ [] :=
  List.append_ne_nil_of_right_ne_nil _ Nat.toDigits_ne_nil

/-- The zeros do not count. -/
theorem ofDigitChars_decimal (zeros n : Nat) : Nat.ofDigitChars 10 (decimal zeros n) 0 = n := by
  rw [decimal, Nat.ofDigitChars_append, Nat.ofDigitChars_replicate_zero, Nat.mul_zero,
    Json.Number.decimalDigits, Nat.ofDigitChars_ten_toDigits]

namespace Duration

/-- The span of a number of seconds. -/
def ofSeconds (n : Nat) (h : n < wordLimit) : Duration := ⟨n, 0, h, zero.nanos_lt⟩

theorem ofSeconds?_of_lt {n : Nat} (h : n < wordLimit) : ofSeconds? n = some (ofSeconds n h) :=
  dif_pos h

theorem ofSeconds?_of_le {n : Nat} (h : wordLimit ≤ n) : ofSeconds? n = none :=
  ofParts?_eq_none_iff.2 h

/-- Seconds that fit are added to no time without a carry. -/
theorem plus_zero_eq {n : Nat} (h : n < wordLimit) : zero.plus n 0 = .ok (ofSeconds n h) := by
  have hpos : 0 < wordLimit := by decide
  have hparts : ofParts? n 0 = some (ofSeconds n h) := ofSeconds?_of_lt h
  simp [plus, word_bind_eq_ok_iff, zero, hpos, h, hparts]

/-! ### Reading spans of seconds -/

theorem digit?_of_isBlank {c : Char} (h : isBlank c = true) : digit? c = none := by
  refine if_neg fun hrange => ?_
  have hdigit : c.isDigit = true := by simpa [Char.isDigit, Char.le_def] using hrange
  rw [not_isBlank_of_isDigit hdigit] at h
  cases h

/-- Blanks behind the digits of a number are passed over. -/
theorem exists_readNumber_blanks {gap : List Char} (h : ∀ c ∈ gap, isBlank c = true)
    (n offset : Nat) (more : List Char) :
    ∃ past, readNumber n (placed offset (gap ++ more)) = readNumber n (placed past more) := by
  induction gap generalizing offset with
  | nil => exact ⟨offset, rfl⟩
  | cons c gap ih =>
    obtain ⟨hc, hgap⟩ := List.forall_mem_cons.1 h
    rw [List.cons_append, placed, readNumber]
    simp only [digit?_of_isBlank hc, hc, if_true]
    exact ih hgap _

theorem termsReading_nil (steps : Nat) : termsReading steps [] = .done := by
  cases steps with
  | zero => rfl
  | succ steps => rfl

/-- The unit at the end of a text makes seconds of a number. -/
theorem afterNumber_second {n : Nat} (h : n < wordLimit) (steps offset : Nat) :
    afterNumber steps (readNumber n (placed offset ['s'])) = .single (.ok (n, 0)) := by
  have hnumber : readNumber n (placed offset ['s']) = .ok (n, none, [(offset, 's')]) := rfl
  have hunit : readUnit [(offset, 's')] = .ok (['s'], []) := rfl
  have hsecond : Measure.ofWord? (String.ofList ['s']) = some .second := by decide
  have hwhole : wholeSummand n .second = .ok (n, 0) := by
    change (do .ok (← word (n * 1), 0)) = _
    rw [Nat.mul_one, word, if_pos h]
    rfl
  rw [hnumber, afterNumber, hunit]
  simp only [termReading, hsecond, hwhole, termsReading_nil]
  rfl

section
variable {s : String} {zeros n : Nat} {more : List Char}

theorem isBlankText_of_decimal (hs : s.toList = decimal zeros n ++ more) :
    isBlankText s = false := by
  obtain ⟨c, cs, hdecimal⟩ := List.exists_cons_of_ne_nil (decimal_ne_nil zeros n)
  have hc : c.isDigit = true := isDigit_of_mem_decimal (hdecimal ▸ List.mem_cons_self)
  rw [isBlankText, hs, hdecimal, List.cons_append, List.all_cons, not_isBlank_of_isDigit hc,
    Bool.false_and]

theorem exists_reading_decimal_eq (hs : s.toList = decimal zeros n ++ more) :
    ∃ steps past, reading s = afterNumber steps
      (if n < wordLimit then readNumber n (placed past more) else .error .tooLarge) := by
  have hread := exists_reading_eq (decimal_ne_nil zeros n) (fun _ => isDigit_of_mem_decimal) hs
  rwa [ofDigitChars_decimal] at hread

/-- A number that does not fit is refused, with a unit or without. -/
theorem parse_of_tooLarge (hs : s.toList = decimal zeros n ++ more) (h : wordLimit ≤ n) :
    parse s = .error .tooLarge := by
  obtain ⟨steps, past, hread⟩ := exists_reading_decimal_eq hs
  rw [parse_eq (isBlankText_of_decimal hs), hread, if_neg (Nat.not_lt.2 h)]
  rfl

/-- A number that fits is read as so many seconds if the unit follows it. -/
theorem parse_of_seconds {gap : List Char} (hgap : ∀ c ∈ gap, isBlank c = true)
    (hs : s.toList = decimal zeros n ++ (gap ++ ['s'])) (h : n < wordLimit) :
    parse s = .ok (ofSeconds n h) := by
  obtain ⟨steps, past, hread⟩ := exists_reading_decimal_eq hs
  obtain ⟨past', hunit⟩ := exists_readNumber_blanks hgap n past ['s']
  rw [parse_eq (isBlankText_of_decimal hs), hread, if_pos h, hunit, afterNumber_second h,
    Reading.sum_single]
  exact plus_zero_eq h

end

end Duration

/-- The configuration with another timeout. -/
def Conf.withTimeout (c : Conf) (value : String) : Conf :=
  { c with options := c.options.insert "connectionTimeout" value }

namespace Config

/-! ### The two spellings -/

/-- A timeout is a number of seconds: it has the decimal digits of the number, with zeros before
    them or without, and then the unit or nothing.  Blanks around the number do not count. -/
inductive SpellsSeconds (n : Nat) (value : String) : Prop
  | bare (zeros : Nat) (lead trail : List Char) (lead_blank : ∀ c ∈ lead, isBlank c = true)
      (trail_blank : ∀ c ∈ trail, isBlank c = true)
      (written : value.toList = lead ++ (decimal zeros n ++ trail))
  | withUnit (zeros : Nat) (lead gap trail : List Char)
      (lead_blank : ∀ c ∈ lead, isBlank c = true) (gap_blank : ∀ c ∈ gap, isBlank c = true)
      (trail_blank : ∀ c ∈ trail, isBlank c = true)
      (written : value.toList = lead ++ (decimal zeros n ++ (gap ++ ['s']) ++ trail))

variable {n : Nat} {value : String}

theorem isTrimmed_decimal (zeros n : Nat) : IsTrimmed (decimal zeros n) := by
  constructor
  · intro c hc
    exact Duration.not_isBlank_of_isDigit (isDigit_of_mem_decimal (List.mem_of_head? hc))
  · intro c hc
    exact Duration.not_isBlank_of_isDigit (isDigit_of_mem_decimal (List.mem_of_getLast? hc))

theorem isTrimmed_decimal_unit (zeros n : Nat) (gap : List Char) :
    IsTrimmed (decimal zeros n ++ (gap ++ ['s'])) := by
  constructor
  · rw [List.head?_append_of_ne_nil _ (decimal_ne_nil zeros n)]
    exact (isTrimmed_decimal zeros n).1
  · intro c hc
    rw [← List.append_assoc, List.getLast?_concat, Option.mem_some_iff] at hc
    rw [← hc]
    decide

theorem decimalValue_eq (digits : List Char) :
    decimalValue digits = Nat.ofDigitChars 10 digits 0 := by
  simp only [decimalValue, Nat.ofDigitChars_eq_foldl, Nat.mul_comm]
  rfl

theorem plainSeconds?_decimal (zeros n : Nat) :
    plainSeconds? (decimal zeros n) = Duration.ofSeconds? n := by
  have hdigits : ∀ c ∈ decimal zeros n, c.isDigit = true := fun _ => isDigit_of_mem_decimal
  have hplain : ¬(decimal zeros n = [] ∨ (decimal zeros n).any (!·.isDigit) = true) := by
    simpa [decimal_ne_nil] using hdigits
  have hvalue : decimalValue (decimal zeros n) = n := by
    rw [decimalValue_eq, ofDigitChars_decimal]
  unfold plainSeconds?
  split
  · next hsign => exact absurd hsign (ne_plus_of_digits hdigits)
  · rw [if_neg hplain]
    exact congrArg Duration.ofSeconds? hvalue

/-- With a unit, and so with a letter, a timeout is no plain number. -/
theorem plainSeconds?_of_letter {cs : List Char} (h : 's' ∈ cs) : plainSeconds? cs = none := by
  have hany : ∀ ds : List Char, 's' ∈ ds → ds.any (!·.isDigit) = true :=
    fun ds hs => List.any_eq_true.2 ⟨'s', hs, by decide⟩
  unfold plainSeconds?
  split
  · next ds =>
    have hs : 's' ∈ ds := (List.mem_cons.1 h).resolve_left (by decide)
    exact if_pos (.inr (hany ds hs))
  · exact if_pos (.inr (hany cs h))

/-- **Both spellings of a number of seconds are read alike:** as so many seconds, or, if these do
    not fit 64 bits, not at all. -/
theorem parseTimeout_of_spellsSeconds (h : SpellsSeconds n value) :
    parseTimeout value =
      if hn : n < wordLimit then .ok (Duration.ofSeconds n hn)
      else failWith (.invalidValue "storeConfig.connectionTimeout" (trim value)
        ("Invalid duration: " ++ Duration.Issue.tooLarge.text)) := by
  rw [parseTimeout]
  cases h with
  | bare zeros lead trail hlead htrail hwritten =>
    have htext := (isTrimmed_decimal zeros n).toList_trim hlead htrail hwritten
    simp only [htext, plainSeconds?_decimal]
    by_cases hn : n < wordLimit
    · rw [dif_pos hn, Duration.ofSeconds?_of_lt hn]
    · -- what is no plain number for its size is no span either
      have hle : wordLimit ≤ n := Nat.le_of_not_lt hn
      have hspan := Duration.parse_of_tooLarge (htext.trans (List.append_nil _).symm) hle
      rw [dif_neg hn, Duration.ofSeconds?_of_le hle]
      simp only [hspan]
  | withUnit zeros lead gap trail hlead hgap htrail hwritten =>
    have htext := (isTrimmed_decimal_unit zeros n gap).toList_trim hlead htrail hwritten
    have hplain : plainSeconds? (trim value).toList = none := by
      rw [htext]
      exact plainSeconds?_of_letter (by simp)
    simp only [hplain]
    by_cases hn : n < wordLimit
    · rw [dif_pos hn, Duration.parse_of_seconds hgap htext hn]
    · have hspan := Duration.parse_of_tooLarge htext (Nat.le_of_not_lt hn)
      rw [dif_neg hn]
      simp only [hspan]

/-- A number of seconds has no reference to a variable. -/
theorem dollar_notMem (h : SpellsSeconds n value) : '$' ∉ value.toList := by
  have hblank : ∀ {cs : List Char}, (∀ c ∈ cs, isBlank c = true) → '$' ∉ cs :=
    fun hcs hmem => absurd (hcs _ hmem) (by decide)
  have hdecimal : ∀ zeros, '$' ∉ decimal zeros n :=
    fun zeros hmem => absurd (isDigit_of_mem_decimal hmem) (by decide)
  cases h with
  | bare _ _ _ hlead htrail hwritten => simp [hwritten, hblank hlead, hblank htrail, hdecimal]
  | withUnit _ _ _ _ hlead hgap htrail hwritten =>
    simp [hwritten, hblank hlead, hblank hgap, hblank htrail, hdecimal]

/-! ### Another timeout -/

/-- The configuration with another timeout: the option as it is expanded, and the span that is read
    from it. -/
def withTimeout (config : Config) (expanded : String) (timeout : Duration) : Config :=
  { config with
    options := config.options.insert "connectionTimeout" expanded
    timeout := timeout }

theorem validate_withTimeout {config : Config} (hvalid : config.validate = .ok ())
    (expanded : String) (timeout : Duration) :
    (config.withTimeout expanded timeout).validate =
      if timeout.isZero then
        failWith (.invalidValue "storeConfig.connectionTimeout" "0"
          "Timeout must be greater than zero")
      else .ok () := by
  obtain ⟨hbackend, ⟨u, hcheck⟩, -⟩ := validate_eq_ok_iff.1 hvalid
  simp only [validate, checkNonBlank, withTimeout, hbackend, hcheck]
  rfl

section
variable {env : Environment} {conf : Conf} {config : Config} {visits : List (String × String)}

theorem expandOptions_withTimeout {options : Settings} {expanded : String}
    (hoptions : expandOptions env conf.options.entries = .ok options)
    (hvalue : expandOption env "connectionTimeout" value = .ok expanded)
    (hvisits : visits.Perm (conf.withTimeout value).options.entries) :
    expandOptions env visits = .ok (options.insert "connectionTimeout" expanded) := by
  have hgiven : Expands env conf.options options :=
    (expandOptions_eq_ok_iff (List.Perm.refl _)).1 hoptions
  rw [expandOptions_eq_ok_iff hvisits]
  exact hgiven.insert hvalue

/-- **Only the timeout counts** where all else is in order: what comes of a configuration with
    another timeout is what comes of that timeout, and nothing else is different. -/
theorem ofConfVisiting_withTimeout (hload : ofConf env conf = .ok config) {expanded : String}
    (hvalue : expandOption env "connectionTimeout" value = .ok expanded)
    (hvisits : visits.Perm (conf.withTimeout value).options.entries) :
    ofConfVisiting env (conf.withTimeout value) visits = (do
      let timeout ← parseTimeout expanded
      if timeout.isZero then
        failWith (.invalidValue "storeConfig.connectionTimeout" "0"
          "Timeout must be greater than zero")
      else .ok (config.withTimeout expanded timeout)) := by
  obtain ⟨name, version, backend, endpoint, basePath, options, timeout⟩ := config
  obtain ⟨-, hbackend, huri, hoptions, -, hendpoint, rfl, rfl, rfl, rfl, hvalid⟩ :=
    loads_of_ofConf (conf.parse_written .ascending) hload
  have hvalidate := validate_withTimeout hvalid expanded
  simp only at hoptions hendpoint
  have hbackend' : isBlankText (conf.withTimeout value).backend = false := hbackend
  have huri' : isBlankText (conf.withTimeout value).uri = false := huri
  have htimeout : timeoutOf (options.insert "connectionTimeout" expanded) =
      parseTimeout expanded := by
    rw [timeoutOf, NameMap.get?_insert, if_pos rfl]
  have hscheme : (options.insert "connectionTimeout" expanded).get? "scheme" =
      options.get? "scheme" := by
    rw [NameMap.get?_insert, if_neg (by decide)]
  rw [ofConfVisiting, require_eq_ok_iff.2 hbackend', require_eq_ok_iff.2 huri',
    expandOptions_withTimeout hoptions hvalue hvisits]
  simp only [bind, Except.bind, htimeout, hscheme]
  cases parseTimeout expanded with
  | error f => rfl
  | ok timeout =>
    simp only [withTimeout] at hvalidate
    simp only [Conf.withTimeout, hendpoint, hvalidate]
    cases timeout.isZero with
    | true => rfl
    | false => rfl

/-- **Loading a number of seconds.**  Let all but the timeout of a configuration be in order, so
    that with some timeout, or with none, it is loaded.  Then each number of seconds, spelled in
    either way, is what the timeout of the loaded configuration is exactly, with the rest as it
    was; but no time at all is refused, and so is a number that does not fit 64 bits.  The order in
    which the options are visited does not count. -/
theorem load_seconds (hload : ofConf env conf = .ok config) (hvalue : SpellsSeconds n value)
    {text : Bytes} (htext : Conf.parse text = .ok (conf.withTimeout value)) (order : Visiting) :
    (∀ hn : n < wordLimit, 1 ≤ n → loadVisiting env order text =
      .ok (config.withTimeout value (Duration.ofSeconds n hn))) ∧
    (n = 0 → loadVisiting env order text =
      failWith (.invalidValue "storeConfig.connectionTimeout" "0"
        "Timeout must be greater than zero")) ∧
    (wordLimit ≤ n → loadVisiting env order text =
      failWith (.invalidValue "storeConfig.connectionTimeout" (trim value)
        ("Invalid duration: " ++ Duration.Issue.tooLarge.text))) := by
  have hexpanded : expandOption env "connectionTimeout" value = .ok value :=
    expandOption_eq_ok_iff.2 (Environment.pass_of_notMem (dollar_notMem hvalue))
  rw [loadVisiting_of_parse htext, ofConfVisiting_withTimeout hload hexpanded (order.perm _),
    parseTimeout_of_spellsSeconds hvalue]
  refine ⟨fun hn hpos => ?_, fun hzero => ?_, fun hle => ?_⟩
  · have hsome : (Duration.ofSeconds n hn).isZero = false := by
      rw [← Duration.total_pos_iff]
      exact Nat.lt_of_lt_of_le (Nat.mul_pos hpos (by decide)) (Nat.le_add_right _ _)
    rw [dif_pos hn]
    change (if (Duration.ofSeconds n hn).isZero then _ else _) = _
    rw [hsome]
    rfl
  · subst hzero
    rfl
  · rw [dif_neg (Nat.not_lt.2 hle)]
    rfl

end

/-- The largest number of seconds in both spellings, the next one, and no time at all. -/
theorem load_seconds_largest :
    let env : Environment := fun _ => none
    let conf : Conf := ⟨none, "", "", "etcd", "h:1", "", NameMap.ofList [("token", "t")]⟩
    let loaded : String → Except Failure Config := fun value =>
      loadVisiting env .descending ((conf.withTimeout value).written .ascending)
    ∃ config largest, ofConf env conf = .ok config ∧ largest.seconds = 18446744073709551615 ∧
      loaded "0018446744073709551615" =
        .ok (config.withTimeout "0018446744073709551615" largest) ∧
      loaded "\t18446744073709551615 s" =
        .ok (config.withTimeout "\t18446744073709551615 s" largest) ∧
      loaded "18446744073709551616s" =
        failWith (.invalidValue "storeConfig.connectionTimeout" (trim "18446744073709551616s")
          ("Invalid duration: " ++ Duration.Issue.tooLarge.text)) ∧
      loaded "00" =
        failWith (.invalidValue "storeConfig.connectionTimeout" "0"
          "Timeout must be greater than zero") := by
  intro env conf loaded
  have hbackend : (ofConf env conf).map (·.backend) = .ok "etcd" := by decide +kernel
  obtain ⟨config, hload, -⟩ := Json.exists_of_map_eq_ok hbackend
  have hwritten : ∀ value, Conf.parse ((conf.withTimeout value).written .ascending) =
      .ok (conf.withTimeout value) := fun value => (conf.withTimeout value).parse_written .ascending
  have hfits : 18446744073709551615 < wordLimit := by decide
  have hbare : SpellsSeconds 18446744073709551615 "0018446744073709551615" :=
    .bare 2 [] [] nofun nofun (by decide +kernel)
  have hunit : SpellsSeconds 18446744073709551615 "\t18446744073709551615 s" :=
    .withUnit 0 ['\t'] [' '] [] (List.forall_mem_singleton.2 rfl) (List.forall_mem_singleton.2 rfl)
      nofun (by decide +kernel)
  have hlarge : SpellsSeconds 18446744073709551616 "18446744073709551616s" :=
    .withUnit 0 [] [] [] nofun nofun nofun (by decide +kernel)
  have hzero : SpellsSeconds 0 "00" := .bare 1 [] [] nofun nofun (by decide +kernel)
  exact ⟨config, Duration.ofSeconds _ hfits, hload, rfl,
    (load_seconds hload hbare (hwritten _) .descending).1 hfits (by decide),
    (load_seconds hload hunit (hwritten _) .descending).1 hfits (by decide),
    (load_seconds hload hlarge (hwritten _) .descending).2.2 (by decide),
    (load_seconds hload hzero (hwritten _) .descending).2.1 rfl⟩

end Config

end NetDelegate
