/-
  NetDelegate/Proofs/Config/Timeout.lean
  ======================================
  **Where loading breaks down.**  All steps of loading but one can only refuse what was handed in.
  The exception is the timeout: its sum can overflow (`Duration.Overflows`), and loading breaks
  down just where it does (`ofConfVisiting_eq_breakdown_iff`).
-/
import NetDelegate.Proofs.Config.Load
import NetDelegate.Proofs.Config.Sum

namespace NetDelegate.Config

/-- The timeout among the options is a span with units whose sum overflows. -/
structure TimeoutOverflows (env : Environment) (conf : Conf) (visits : List (String × String)) :
    Prop where
  backend_given : isBlankText conf.backend = false
  uri_given : isBlankText conf.uri = false
  timeout : ∃ options value, expandOptions env visits = .ok options ∧
    options.get? "connectionTimeout" = some value ∧ plainSeconds? (trim value).toList = none ∧
      Duration.Overflows (trim value)

theorem timeoutOf_eq_breakdown_iff {options : Settings} {message : String} :
    timeoutOf options = .error (.breakdown message) ↔ message = Duration.Issue.overflow.text ∧
      ∃ value, options.get? "connectionTimeout" = some value ∧
        plainSeconds? (trim value).toList = none ∧ Duration.Overflows (trim value) := by
  simp only [← Duration.parse_eq_overflow_iff]
  unfold timeoutOf
  cases options.get? "connectionTimeout" with
  | none => simp
  | some value =>
    simp only [parseTimeout, Option.some.injEq, exists_eq_left']
    cases plainSeconds? (trim value).toList with
    | some d => simp
    | none =>
      cases hparse : Duration.parse (trim value) with
      | ok d => simp
      | error issue => cases issue with
        | overflow => simp [eq_comm]
        | _ => simp [failWith]

section
variable {α β : Type} {message : String}

theorem ne_breakdown {x : Except Failure α} (h : FailsOnly Failure.IsRefusal x) :
    x ≠ .error (.breakdown message) := by
  intro hx
  cases h _ hx

/-- A step that can only refuse does not break down. -/
theorem bind_eq_breakdown_iff {x : Except Failure α} {f : α → Except Failure β}
    (hx : FailsOnly Failure.IsRefusal x) :
    (x >>= f) = .error (.breakdown message) ↔
      ∃ v, x = .ok v ∧ f v = .error (.breakdown message) := by
  cases x with
  | error failure =>
    constructor
    · intro h
      cases h
      exact absurd rfl (ne_breakdown hx)
    · rintro ⟨v, hv, -⟩
      cases hv
  | ok v =>
    constructor
    · intro h
      exact ⟨v, rfl, h⟩
    · rintro ⟨v', hv, h⟩
      cases hv
      exact h

theorem bind_eq_breakdown_iff_left {x : Except Failure α} {f : α → Except Failure β}
    (hf : ∀ v, FailsOnly Failure.IsRefusal (f v)) :
    (x >>= f) = .error (.breakdown message) ↔ x = .error (.breakdown message) := by
  cases x with
  | error failure =>
    constructor
    · intro h
      cases h
      rfl
    · intro h
      cases h
      rfl
  | ok v =>
    constructor
    · intro h
      exact absurd h (ne_breakdown (hf v))
    · intro h
      cases h

end

theorem ofConfVisiting_eq_breakdown_iff {env : Environment} {conf : Conf}
    {visits : List (String × String)} {message : String} :
    ofConfVisiting env conf visits = .error (.breakdown message) ↔
      message = Duration.Issue.overflow.text ∧ TimeoutOverflows env conf visits := by
  have hafter : ∀ options timeout, FailsOnly Failure.IsRefusal (do
      let endpoint ← parseEndpoint (trim conf.uri) ((options.get? "scheme").getD "http")
      let config : Config := ⟨conf.name, conf.version, lowercase (trim conf.backend), endpoint,
        normalizeBasePath conf.basePath, options, timeout⟩
      config.validate
      .ok config) := by
    intro options timeout
    apply (failsOnly_parseEndpoint _ _).bind
    intro endpoint
    exact (failsOnly_validate _).bind fun _ => failsOnly_ok _
  have hsteps : ofConfVisiting env conf visits = .error (.breakdown message) ↔
      isBlankText conf.backend = false ∧ isBlankText conf.uri = false ∧
        ∃ options, expandOptions env visits = .ok options ∧
          timeoutOf options = .error (.breakdown message) := by
    rw [ofConfVisiting, bind_eq_breakdown_iff (failsOnly_require _ _)]
    simp only [bind_eq_breakdown_iff (failsOnly_require _ _),
      bind_eq_breakdown_iff (failsOnly_expandOptions _ _),
      bind_eq_breakdown_iff_left (hafter _)]
    constructor
    · rintro ⟨_, hbackend, _, huri, options, hoptions⟩
      exact ⟨require_eq_ok_iff.1 hbackend, require_eq_ok_iff.1 huri, options, hoptions⟩
    · rintro ⟨hbackend, huri, options, hoptions⟩
      exact ⟨(), require_eq_ok_iff.2 hbackend, (), require_eq_ok_iff.2 huri, options, hoptions⟩
  rw [hsteps]
  constructor
  · rintro ⟨hbackend, huri, options, hoptions, htimeout⟩
    obtain ⟨hmessage, value, hvalue⟩ := timeoutOf_eq_breakdown_iff.1 htimeout
    exact ⟨hmessage, hbackend, huri, options, value, hoptions, hvalue⟩
  · rintro ⟨hmessage, hbackend, huri, options, value, hoptions, hvalue⟩
    refine ⟨hbackend, huri, options, hoptions, ?_⟩
    exact timeoutOf_eq_breakdown_iff.2 ⟨hmessage, value, hvalue⟩

/-- An outcome of loading: a configuration or an error of category configuration, except for a
    breakdown that there is just in one case. -/
structure IsTotalBut (overflows : Prop) (x : Except Failure Config) : Prop where
  cases : (∃ config, x = .ok config) ∨
    (∃ e, x = failWith e ∧ Failure.IsRefusal (.error e) ∧ e.category = .config) ∨
    x = .error (.breakdown Duration.Issue.overflow.text)
  breakdown_iff : x = .error (.breakdown Duration.Issue.overflow.text) ↔ overflows

theorem isTotalBut_of_failsOnly {overflows : Prop} {x : Except Failure Config}
    (h : FailsOnly IsTimeoutFailure x)
    (hiff : x = .error (.breakdown Duration.Issue.overflow.text) ↔ overflows) :
    IsTotalBut overflows x := by
  refine ⟨?_, hiff⟩
  cases x with
  | ok config => exact .inl ⟨config, rfl⟩
  | error f =>
    right
    cases h f rfl with
    | overflow => exact .inr rfl
    | refusal hrefusal =>
      cases hrefusal with
      | malformed message => exact .inl ⟨_, rfl, .malformed message, rfl⟩
      | invalid field value reason => exact .inl ⟨_, rfl, .invalid field value reason, rfl⟩

/-- **Loading is total but for one sum.**  Whatever the text and the environment, and in whatever
    order the options are visited, loading comes to a configuration or to an error of category
    configuration, namely to a text that is malformed or to a value that is not allowed.  It
    breaks down if and only if the timeout is added up to 2^64 seconds by its nanoseconds. -/
theorem load_isTotalBut (env : Environment) :
    (∀ text, IsTotalBut
      (∃ conf, Conf.parse text = .ok conf ∧ TimeoutOverflows env conf conf.options.entries)
      (load env text)) ∧
    ∀ conf visits, IsTotalBut (TimeoutOverflows env conf visits)
      (ofConfVisiting env conf visits) := by
  constructor
  · intro text
    apply isTotalBut_of_failsOnly (failsOnly_load env text)
    unfold load
    cases Conf.parse text with
    | error e => simp [failWith]
    | ok conf =>
      simp only [Except.ok.injEq, exists_eq_left']
      rw [ofConf, ofConfVisiting_eq_breakdown_iff]
      exact and_iff_right rfl
  · intro conf visits
    apply isTotalBut_of_failsOnly (failsOnly_ofConfVisiting env conf visits)
    rw [ofConfVisiting_eq_breakdown_iff]
    exact and_iff_right rfl

/-- A timeout of one second less than 2^64 seconds and a thousand milliseconds. -/
theorem load_breaks_down :
    let text := utf8 ("\x7b\"storeBackend\":\"etcd\",\"uri\":\"localhost:2379\"," ++
      "\"storeConfig\":\x7b\"connectionTimeout\":\"18446744073709551615s 1000ms\"\x7d\x7d")
    let outcome := load (fun _ => none) text
    outcome = .error (.breakdown "overflow in Duration::new") ∧
      ¬ ((∃ config, outcome = .ok config) ∨ ∃ e, outcome = failWith e ∧ e.category = .config) := by
  intro text outcome
  have hbreaks : outcome = .error (.breakdown "overflow in Duration::new") := by decide +kernel
  refine ⟨hbreaks, ?_⟩
  rw [hbreaks]
  rintro (⟨config, h⟩ | ⟨e, h, -⟩)
  · cases h
  · cases h

end NetDelegate.Config
