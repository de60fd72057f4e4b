/-
  NetDelegate/Proofs/Config/WellFormed.lean
  =========================================
  **Configurations that were loaded are well formed.**  `IsWellFormed` gathers what the steps of
  loading assure: the prefix of keys ends with a separator, the backend has a name, the endpoint
  is the address of a host, there is time to connect, and the options are those that were given,
  with their references replaced (`load_isWellFormed`).  The stores rely on the endpoint: paths can
  be added to it, so the errors for an endpoint that has no room for a path are never seen.
-/
import NetDelegate.Proofs.Config.Load
import NetDelegate.Proofs.Config.Options
import NetDelegate.Proofs.Config.Span
import NetDelegate.Proofs.Store.Failure

namespace NetDelegate.Config

open Environment

/-- What is true of a configuration that comes of the given members. -/
structure IsWellFormed (env : Environment) (conf : Conf) (config : Config) : Prop where
  basePath_ends : config.basePath.toList.getLast? = some '/'
  basePath_eq : config.basePath = conf.basePath ∨ config.basePath = conf.basePath ++ "/"
  backend : ∃ c ∈ config.backend.toList, isBlank c = false
  scheme : config.endpoint.scheme.text = "http" ∨ config.endpoint.scheme.text = "https"
  host : config.endpoint.host.text ≠ []
  address : ∃ rest, config.endpoint.text.toList = config.endpoint.scheme.text.toList ++
    "://".toList ++ config.endpoint.credentialsText ++ config.endpoint.host.text ++ rest
  readable : ∃ u, Url.parse config.endpoint.text = .ok u
  timeout_pos : 0 < config.timeout.total
  timeout_default : config.timeout = defaultTimeout ↔
    conf.options.get? "connectionTimeout" = none ∨
      ∃ value, config.options.get? "connectionTimeout" = some value ∧
        Denotes value defaultTimeout.total
  options : ∀ name, Option.Rel (fun value expanded => Pass env value.toList expanded.toList [])
    (conf.options.get? name) (config.options.get? name)
  keyUrl : ∀ top key, ∃ url, Store.keyUrl? config.endpoint top key = some url
  base : ∀ net log backend endpoint, (Registry.builtin.connect config net log).1 ≠
    .error (.connectFailed backend endpoint "endpoint URL cannot be a base")
  key : ∀ net log store, (Registry.builtin.connect config net log).1 = .ok store →
    ∀ key net' log' backend key', (store.get key net' log').1 ≠
      .error (.storeFailed backend key' "invalid key URL")

/-! ### The steps of loading -/

theorem exists_of_isBlankText_eq_false {s : String} (h : isBlankText s = false) :
    ∃ c ∈ s.toList, isBlank c = false := by
  simpa [isBlankText] using h

theorem validate_eq_ok_iff {config : Config} :
    config.validate = .ok () ↔ isBlankText config.backend = false ∧
      (∃ u, Url.check "uri" config.endpoint.text = .ok u) ∧ config.timeout.isZero = false := by
  unfold validate checkNonBlank
  cases isBlankText config.backend with
  | true => simp [failWith, bind, Except.bind]
  | false =>
    cases Url.check "uri" config.endpoint.text with
    | error f => simp [bind, Except.bind]
    | ok u =>
      cases config.timeout.isZero with
      | true => simp [failWith, bind, Except.bind]
      | false => simp [bind, Except.bind]

theorem timeout_eq_default_iff {options : Settings} {timeout : Duration}
    (h : timeoutOf options = .ok timeout) :
    timeout = defaultTimeout ↔ options.get? "connectionTimeout" = none ∨
      ∃ value, options.get? "connectionTimeout" = some value ∧
        Denotes value defaultTimeout.total := by
  unfold timeoutOf at h
  split at h
  · next value hvalue =>
    simp only [hvalue, reduceCtorEq, false_or, Option.some.injEq, exists_eq_left',
      denotes_iff_of_parseTimeout h]
    rw [Duration.total_inj, eq_comm]
  · next hnone =>
    cases h
    simp [hnone]

theorem Expands.get?_eq_none_iff {env : Environment} {given expanded : Settings}
    (h : Expands env given expanded) (name : String) :
    expanded.get? name = none ↔ given.get? name = none := by
  have hname := h name
  generalize given.get? name = value at hname ⊢
  generalize expanded.get? name = v at hname ⊢
  cases hname with
  | none => exact Iff.rfl
  | some _ => simp

theorem Expands.pass {env : Environment} {given expanded : Settings}
    (h : Expands env given expanded) (name : String) :
    Option.Rel (fun value v => Pass env value.toList v.toList [])
      (given.get? name) (expanded.get? name) := by
  have hname := h name
  generalize given.get? name = value at hname ⊢
  generalize expanded.get? name = v at hname ⊢
  cases hname with
  | none => exact .none
  | some hv => exact .some (expandOption_eq_ok_iff.1 hv)

theorem Loads.isWellFormed {env : Environment} {text : Bytes} {conf : Conf} {config : Config}
    (h : Loads env text conf config) : IsWellFormed env conf config := by
  obtain ⟨hbackend, ⟨u, hcheck⟩, htimeout⟩ := validate_eq_ok_iff.1 h.valid
  obtain ⟨s, hparse⟩ := exists_parse_of_parseEndpoint h.endpoint
  have hexpands := (expandOptions_eq_ok_iff (List.Perm.refl _)).1 h.options
  exact {
    basePath_ends := by
      rw [h.basePath]
      exact getLast?_normalizeBasePath _
    basePath_eq := by
      rw [h.basePath]
      exact normalizeBasePath_eq _
    backend := exists_of_isBlankText_eq_false hbackend
    scheme := by
      cases config.endpoint.scheme with
      | http => exact .inl rfl
      | https => exact .inr rfl
    host := Url.host_ne_nil_of_parse hparse
    address := by
      refine ⟨config.endpoint.portText ++ Url.pathText config.endpoint.path ++
        Url.marked '?' config.endpoint.query ++ Url.marked '#' config.endpoint.fragment, ?_⟩
      rw [Url.text, String.toList_ofList]
      simp only [List.append_assoc]
    readable := ⟨u, parse_of_check hcheck⟩
    timeout_pos := Duration.total_pos_iff.2 htimeout
    timeout_default := by
      rw [timeout_eq_default_iff h.timeout, hexpands.get?_eq_none_iff]
    options := hexpands.pass
    keyUrl := fun top key => ⟨_, Store.keyUrl?_eq config.endpoint top key⟩
    base := Registry.ne_baseError_of_connect config
    key := fun _ _ _ hstore => Registry.ne_badKey_of_get hstore }

/-- **Loaded configurations are well formed,** and the order in which the options are visited does
    not count for them. -/
theorem load_isWellFormed {env : Environment} {text : Bytes} {config : Config}
    (h : load env text = .ok config) :
    ∃ conf, Conf.parse text = .ok conf ∧ IsWellFormed env conf config ∧
      ∀ visits, visits.Perm conf.options.entries → ofConfVisiting env conf visits = .ok config := by
  obtain ⟨conf, hloads⟩ := load_eq_ok_iff.1 h
  refine ⟨conf, hloads.parsed, hloads.isWellFormed, fun visits hvisits => ?_⟩
  rw [ofConfVisiting_eq_ok_iff hvisits]
  exact hloads.ofConf_eq

/-- A configuration whose prefix has no separator at its end, and whose timeout is the default in
    other words. -/
theorem load_isWellFormed_tenSeconds :
    let text := utf8 ("\x7b\"storeBackend\":\"etcd\",\"uri\":\"localhost:2379\"," ++
      "\"basePath\":\"cni\",\"storeConfig\":\x7b\"connectionTimeout\":\"9s 1000ms\"\x7d\x7d")
    ∃ conf config, load (fun _ => none) text = .ok config ∧
      IsWellFormed (fun _ => none) conf config ∧ config.basePath = "cni/" ∧
        config.timeout = defaultTimeout := by
  intro text
  obtain ⟨config, hload, hfound⟩ : ∃ config, load (fun _ => none) text = .ok config ∧
      (config.basePath, config.timeout) = ("cni/", defaultTimeout) :=
    exists_load_of_map (by decide +kernel)
  obtain ⟨conf, -, hwellFormed, -⟩ := load_isWellFormed hload
  exact ⟨conf, config, hload, hwellFormed, congrArg Prod.fst hfound, congrArg Prod.snd hfound⟩

end NetDelegate.Config
