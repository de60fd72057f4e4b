/-
  NetDelegate/Proofs/Config/Load.lean
  ===================================
  **What it takes to load a configuration.**  `Loads` lists what was read, expanded and checked on
  the way to a configuration; a text gives a configuration if and only if all of it went well
  (`load_eq_ok_iff`).  In particular the endpoint is an address that was read, so that its path is
  a written one (`isWritten_endpoint`).
-/
import NetDelegate.Config.Basic
import NetDelegate.Proofs.Url.Text

namespace NetDelegate.Config

/-- The configuration comes of the text, which says `conf`. -/
structure Loads (env : Environment) (text : Bytes) (conf : Conf) (config : Config) : Prop where
  parsed : Conf.parse text = .ok conf
  backend_given : isBlankText conf.backend = false
  uri_given : isBlankText conf.uri = false
  options : expandOptions env conf.options.entries = .ok config.options
  timeout : timeoutOf config.options = .ok config.timeout
  endpoint : parseEndpoint (trim conf.uri) ((config.options.get? "scheme").getD "http") =
    .ok config.endpoint
  name : config.name = conf.name
  version : config.version = conf.version
  backend : config.backend = lowercase (trim conf.backend)
  basePath : config.basePath = normalizeBasePath conf.basePath
  valid : config.validate = .ok ()

theorem require_eq_ok_iff {name value : String} :
    require name value = .ok () ↔ isBlankText value = false := by
  unfold require
  split
  · next hblank =>
    constructor
    · intro h
      cases h
    · intro h
      rw [h] at hblank
      cases hblank
  · next hblank =>
    constructor
    · intro _
      exact Bool.eq_false_iff.2 hblank
    · intro _
      rfl

theorem loads_of_ofConf {env : Environment} {text : Bytes} {conf : Conf} {config : Config}
    (hparse : Conf.parse text = .ok conf) (h : ofConf env conf = .ok config) :
    Loads env text conf config := by
  unfold ofConf ofConfVisiting at h
  simp only [bind, Except.bind] at h
  split at h
  · cases h
  · next hbackend =>
    split at h
    · cases h
    · next huri =>
      split at h
      · cases h
      · next options hoptions =>
        split at h
        · cases h
        · next timeout htimeout =>
          split at h
          · cases h
          · next endpoint hendpoint =>
            split at h
            · cases h
            · next hvalid =>
              cases h
              exact {
                parsed := hparse
                backend_given := require_eq_ok_iff.1 hbackend
                uri_given := require_eq_ok_iff.1 huri
                options := hoptions
                timeout := htimeout
                endpoint := hendpoint
                name := rfl
                version := rfl
                backend := rfl
                basePath := rfl
                valid := hvalid }

theorem Loads.ofConf_eq {env : Environment} {text : Bytes} {conf : Conf} {config : Config}
    (h : Loads env text conf config) : ofConf env conf = .ok config := by
  obtain ⟨name, version, backend, endpoint, basePath, options, timeout⟩ := config
  obtain ⟨-, hbackend, huri, hoptions, htimeout, hendpoint, rfl, rfl, rfl, rfl, hvalid⟩ := h
  simp only at hoptions htimeout hendpoint
  unfold ofConf ofConfVisiting
  rw [require_eq_ok_iff.2 hbackend, require_eq_ok_iff.2 huri, hoptions]
  simp only [bind, Except.bind, htimeout, hendpoint, hvalid]

/-- **Loading:** what a text must have for a configuration to come of it, and which one does. -/
theorem load_eq_ok_iff {env : Environment} {text : Bytes} {config : Config} :
    load env text = .ok config ↔ ∃ conf, Loads env text conf config := by
  unfold load
  constructor
  · intro h
    split at h
    · next conf hparse => exact ⟨conf, loads_of_ofConf hparse h⟩
    · cases h
  · rintro ⟨conf, h⟩
    rw [h.parsed]
    exact h.ofConf_eq

/-- What is known of the configuration that comes of a text. -/
theorem exists_load_of_map {env : Environment} {text : Bytes} {α : Type} {f : Config → α} {a : α}
    (h : (load env text).toOption.map f = some a) :
    ∃ config, load env text = .ok config ∧ f config = a := by
  cases hload : load env text with
  | error failure =>
    rw [hload] at h
    cases h
  | ok config =>
    rw [hload] at h
    exact ⟨config, rfl, Option.some.inj h⟩

/-! ### The prefix of keys -/

theorem getLast?_normalizeBasePath (path : String) :
    (normalizeBasePath path).toList.getLast? = some '/' := by
  unfold normalizeBasePath
  split
  · next h => exact h
  · rw [String.toList_push, List.getLast?_concat]
    rfl

theorem normalizeBasePath_eq (path : String) :
    normalizeBasePath path = path ∨ normalizeBasePath path = path ++ "/" := by
  unfold normalizeBasePath
  split
  · exact .inl rfl
  · right
    rw [← String.toList_inj, String.toList_push, String.toList_append]
    rfl

theorem exists_normalizeBasePath_eq (path : String) :
    ∃ front, (normalizeBasePath path).toList = front ++ [keySeparator] :=
  List.getLast?_eq_some_iff.1 (getLast?_normalizeBasePath path)

/-! ### The address of the store -/

theorem parse_of_check {field value : String} {u : Url} (h : Url.check field value = .ok u) :
    Url.parse value = .ok u := by
  unfold Url.check at h
  split at h
  · cases h
  · split at h
    · next hparse =>
      cases h
      exact hparse
    · cases h

theorem exists_parse_of_parseEndpoint {uri scheme : String} {u : Url}
    (h : parseEndpoint uri scheme = .ok u) : ∃ s, Url.parse s = .ok u := by
  unfold parseEndpoint at h
  by_cases hscheme : scheme ≠ "http" ∧ scheme ≠ "https"
  · rw [if_pos hscheme] at h
    cases h
  · rw [if_neg hscheme] at h
    exact ⟨_, parse_of_check h⟩

/-- The path of an endpoint is a written one. -/
theorem isWritten_endpoint {env : Environment} {text : Bytes} {config : Config}
    (h : load env text = .ok config) : Path.IsWritten config.endpoint.path := by
  obtain ⟨conf, hloads⟩ := load_eq_ok_iff.1 h
  obtain ⟨s, hparse⟩ := exists_parse_of_parseEndpoint hloads.endpoint
  exact Url.isWritten_parse hparse

end NetDelegate.Config
