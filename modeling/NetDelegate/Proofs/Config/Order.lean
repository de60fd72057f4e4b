/-
  NetDelegate/Proofs/Config/Order.lean
  ====================================
  **The order of the options.**  Expanding options stops at the first that cannot be expanded, so
  with several of these the order decides which one is reported.  With one at most
  (`FailsAtMostOnce`) there is nothing to decide: where one fails, its failure is what every order
  comes to (`expandOptions_of_error`), and where none does, every order makes the same options
  (`expandOptions_eq_ok_iff`).  All that is read from the options is read after that, and all that
  does not need them is checked before (`ofConfVisiting_eq_of_perm`).
-/
import NetDelegate.Proofs.Config.Load
import NetDelegate.Proofs.Config.Options

namespace NetDelegate.Config

variable {env : Environment} {conf : Conf} {visits visits' : List (String × String)}

/-- At most one of the options cannot be expanded. -/
def FailsAtMostOnce (env : Environment) (options : Settings) : Prop :=
  ∀ e ∈ options.entries, ∀ e' ∈ options.entries, ∀ f f',
    expandOption env e.1 e.2 = .error f → expandOption env e'.1 e'.2 = .error f' → e = e'

/-! ### Expanding the options -/

theorem expandNext_of_error {s : Settings} {e : String × String} {f : Failure}
    (h : expandOption env e.1 e.2 = .error f) : expandNext env s e = .error f := by
  rw [expandNext, h]
  rfl

theorem expandNext_of_ok {s : Settings} {e : String × String} {value : String}
    (h : expandOption env e.1 e.2 = .ok value) : expandNext env s e = .ok (s.insert e.1 value) := by
  rw [expandNext, h]
  rfl

/-- Where one option only cannot be expanded, expanding the options fails as it does. -/
theorem expandOptions_of_error {e : String × String} {f : Failure} (hmem : e ∈ visits)
    (hfails : expandOption env e.1 e.2 = .error f)
    (honce : ∀ e' ∈ visits, ∀ f', expandOption env e'.1 e'.2 = .error f' → e' = e) :
    expandOptions env visits = .error f := by
  change visits.foldlM (expandNext env) NameMap.empty = .error f
  generalize NameMap.empty = s
  induction visits generalizing s with
  | nil => cases hmem
  | cons next visits ih =>
    rw [List.foldlM_cons]
    cases hnext : expandOption env next.1 next.2 with
    | error f' =>
      obtain rfl := honce next List.mem_cons_self f' hnext
      rw [expandNext_of_error hfails]
      rfl
    | ok value =>
      have hne : e ≠ next := by
        rintro rfl
        rw [hnext] at hfails
        cases hfails
      rw [expandNext_of_ok hnext]
      exact ih ((List.mem_cons.1 hmem).resolve_left hne)
        (fun e' he' => honce e' (List.mem_cons_of_mem next he')) _

theorem FailsAtMostOnce.expandOptions_of_error (h : FailsAtMostOnce env conf.options)
    (hvisits : visits.Perm conf.options.entries) {e : String × String}
    (hmem : e ∈ conf.options.entries) {f : Failure} (hfails : expandOption env e.1 e.2 = .error f) :
    expandOptions env visits = .error f := by
  refine Config.expandOptions_of_error (hvisits.mem_iff.2 hmem) hfails ?_
  intro e' he' f' hfails'
  exact h e' (hvisits.mem_iff.1 he') e hmem f' f hfails' hfails

/-- Every order comes to the same options, or to the same failure. -/
theorem FailsAtMostOnce.expandOptions_eq (h : FailsAtMostOnce env conf.options)
    (hvisits : visits.Perm conf.options.entries) (hvisits' : visits'.Perm conf.options.entries) :
    expandOptions env visits = expandOptions env visits' := by
  by_cases hall : ∀ e ∈ conf.options.entries, ∃ v, expandOption env e.1 e.2 = .ok v
  · obtain ⟨options, hoptions⟩ : ∃ options, expandOptions env visits = .ok options :=
      exists_foldlM_eq_ok (fun e he => hall e (hvisits.mem_iff.1 he)) NameMap.empty
    rw [hoptions, eq_comm, expandOptions_eq_ok_iff hvisits']
    exact (expandOptions_eq_ok_iff hvisits).1 hoptions
  · obtain ⟨e, hmem, hfails⟩ : ∃ e ∈ conf.options.entries, ¬∃ v, expandOption env e.1 e.2 = .ok v :=
      by simpa only [not_forall, exists_prop] using hall
    cases hfailure : expandOption env e.1 e.2 with
    | ok v => exact absurd ⟨v, hfailure⟩ hfails
    | error f =>
      rw [h.expandOptions_of_error hvisits hmem hfailure,
        h.expandOptions_of_error hvisits' hmem hfailure]

/-! ### Making the configuration -/

theorem ofConfVisiting_of_backend_blank (h : isBlankText conf.backend = true) :
    ofConfVisiting env conf visits = failWith (.malformedConfig "storeBackend is required") := by
  rw [ofConfVisiting, require, if_pos h]
  rfl

theorem ofConfVisiting_of_uri_blank (hbackend : isBlankText conf.backend = false)
    (huri : isBlankText conf.uri = true) :
    ofConfVisiting env conf visits = failWith (.malformedConfig "uri is required") := by
  rw [ofConfVisiting, require_eq_ok_iff.2 hbackend, require, if_pos huri]
  rfl

/-- A failure to expand the options comes before all that is read from them. -/
theorem ofConfVisiting_of_error (hbackend : isBlankText conf.backend = false)
    (huri : isBlankText conf.uri = false) {f : Failure}
    (h : expandOptions env visits = .error f) : ofConfVisiting env conf visits = .error f := by
  rw [ofConfVisiting, require_eq_ok_iff.2 hbackend, require_eq_ok_iff.2 huri, h]
  rfl

/-- **The order in which options are visited does not count,** if at most one of them cannot be
    expanded.  A backend or an address of blanks is refused before the options are looked at; in
    all other cases an option that cannot be expanded is what is reported, whatever the timeout,
    the scheme and the address are. -/
theorem ofConfVisiting_eq_of_perm (honce : FailsAtMostOnce env conf.options)
    (hvisits : visits.Perm conf.options.entries) (hvisits' : visits'.Perm conf.options.entries) :
    ofConfVisiting env conf visits = ofConfVisiting env conf visits' ∧
      ∀ e ∈ conf.options.entries, ∀ f, expandOption env e.1 e.2 = .error f →
        ofConfVisiting env conf visits =
          if isBlankText conf.backend then
            failWith (.malformedConfig "storeBackend is required")
          else if isBlankText conf.uri then failWith (.malformedConfig "uri is required")
          else .error f := by
  constructor
  · rw [ofConfVisiting, ofConfVisiting, honce.expandOptions_eq hvisits hvisits']
  · intro e hmem f hfails
    cases hbackend : isBlankText conf.backend with
    | true => exact ofConfVisiting_of_backend_blank hbackend
    | false =>
      cases huri : isBlankText conf.uri with
      | true => exact ofConfVisiting_of_uri_blank hbackend huri
      | false =>
        exact ofConfVisiting_of_error hbackend huri
          (honce.expandOptions_of_error hvisits hmem hfails)

/-- What was handed in with these options. -/
def confWith (uri : String) (options : List (String × String)) : Conf :=
  ⟨none, "", "", "etcd", uri, "", NameMap.ofList options⟩

/-- A reference in vain next to a timeout, a scheme and an address that are invalid, in two
    orders. -/
theorem ofConfVisiting_eq_of_perm_reversed :
    let env : Environment := fun _ => none
    let conf := confWith "h:x" [("connectionTimeout", "soon"), ("scheme", "ftp"),
      ("token", "$\x7bT\x7d")]
    ofConfVisiting env conf conf.options.entries =
        ofConfVisiting env conf conf.options.entries.reverse ∧
      ofConfVisiting env conf conf.options.entries =
        failWith (.invalidValue "storeConfig.token" "$\x7bT\x7d"
          "environment variable 'T' not set") := by
  intro env conf
  have hentries : conf.options.entries = [("connectionTimeout", "soon"), ("scheme", "ftp"),
      ("token", "$\x7bT\x7d")] := by decide +kernel
  have hfails : ∀ e ∈ conf.options.entries, (expandOption env e.1 e.2).isOk = false →
      e = ("token", "$\x7bT\x7d") := by
    rw [hentries]
    decide +kernel
  have honce : FailsAtMostOnce env conf.options := by
    intro e he e' he' f f' hf hf'
    rw [hfails e he (by rw [hf]; rfl), hfails e' he' (by rw [hf']; rfl)]
  have hmem : ("token", "$\x7bT\x7d") ∈ conf.options.entries := by
    rw [hentries]
    decide
  have hmissing : expandOption env "token" "$\x7bT\x7d" =
      failWith (.invalidValue "storeConfig.token" "$\x7bT\x7d"
        "environment variable 'T' not set") := by decide +kernel
  have horder := ofConfVisiting_eq_of_perm honce (List.Perm.refl _)
    (List.reverse_perm conf.options.entries)
  have hbackend : isBlankText conf.backend = false := by decide +kernel
  have huri : isBlankText conf.uri = false := by decide +kernel
  refine ⟨horder.1, ?_⟩
  rw [horder.2 _ hmem _ hmissing, hbackend, huri]
  rfl

/-- An address of blanks is no address, and it wins over an option that cannot be expanded. -/
theorem blank_uri_wins :
    let env : Environment := fun _ => none
    let conf := confWith " " [("token", "$\x7bT\x7d")]
    let missing : Failure := .error (.invalidValue "storeConfig.token" "$\x7bT\x7d"
      "environment variable 'T' not set")
    FailsAtMostOnce env conf.options ∧
      (∃ e ∈ conf.options.entries, expandOption env e.1 e.2 = .error missing) ∧
      (parseEndpoint (trim conf.uri) "http").isOk = false ∧
      ofConf env conf = failWith (.malformedConfig "uri is required") ∧
      ofConf env conf ≠ .error missing := by
  intro env conf missing
  have hentries : conf.options.entries = [("token", "$\x7bT\x7d")] := by decide +kernel
  refine ⟨?_, ?_, by decide +kernel, by decide +kernel, by decide +kernel⟩
  · intro e he e' he' _ _ _ _
    rw [hentries, List.mem_singleton] at he he'
    rw [he, he']
  · exact ⟨_, by rw [hentries]; exact List.mem_singleton_self _, by decide +kernel⟩

end NetDelegate.Config
