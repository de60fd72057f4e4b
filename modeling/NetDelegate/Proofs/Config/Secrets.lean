/-
  NetDelegate/Proofs/Config/Secrets.lean
  ======================================
  **Options that are only handed on.**  The password and the token go along in headers and nothing
  is read from them (`Config.IsSecret`).  Where two runs are given the same but for the values of
  such options (`SameButSecrets`), loading fails in the same way in both, or comes to
  configurations that are the same but for these values (`corresponds_load`).  All that is parsed
  or checked, and every value that an error quotes, is read from other options.
-/
import NetDelegate.Proofs.Config.Failure
import NetDelegate.Proofs.Config.Load
import NetDelegate.Proofs.Config.Options
import NetDelegate.Store.Session

namespace NetDelegate

/-- Maps that bind the same names list them in the same order. -/
theorem NameMap.names_eq {α β : Type} {m : NameMap α} {n : NameMap β}
    (h : ∀ name, (m.get? name).isSome = (n.get? name).isSome) : m.names = n.names := by
  have hsorted : ∀ {γ : Type} (k : NameMap γ), k.names.Pairwise (· < ·) := fun k =>
    List.pairwise_map.2 k.sorted
  refine List.Perm.eq_of_pairwise ?_ (hsorted m) (hsorted n)
    ((List.perm_ext_iff_of_nodup m.nodup_names n.nodup_names).2 fun name => ?_)
  · intro a b _ _ hab hba
    exact absurd (String.lt_trans hab hba) (String.lt_irrefl _)
  · rw [← not_iff_not, ← get?_eq_none_iff, ← get?_eq_none_iff, ← Option.not_isSome_iff_eq_none,
      ← Option.not_isSome_iff_eq_none, h]

theorem isSome_eq_of_rel {α β : Type} {R : α → β → Prop} {x : Option α} {y : Option β}
    (h : Option.Rel R x y) : x.isSome = y.isSome := by
  cases h with
  | none => rfl
  | some _ => rfl

namespace Config

/-- A text that can be the value of a header. -/
def IsHeaderText (s : String) : Prop := ∀ b ∈ utf8 s, Draft.isHeaderByte b = true

/-- The option is secret, and this can be its value.  A password is encoded before it goes into a
    header, so any will do. -/
def IsSecret (name value : String) : Prop :=
  name = "password" ∨ name = "token" ∧ IsHeaderText value

/-- The values of an option are the same, or secret. -/
def SameOrSecret (name value value' : String) : Prop :=
  value = value' ∨ IsSecret name value ∧ IsSecret name value'

/-- What an option comes to is the same, or a secret in both environments. -/
def ExpandAlike (env env' : Environment) (name value value' : String) : Prop :=
  Corresponds Eq (SameOrSecret name) (expandOption env name value) (expandOption env' name value')

/-- Two runs are given the same, but for what the secret options come to. -/
structure SameButSecrets (env env' : Environment) (conf conf' : Conf) : Prop where
  version : conf.version = conf'.version
  name : conf.name = conf'.name
  backend : conf.backend = conf'.backend
  uri : conf.uri = conf'.uri
  basePath : conf.basePath = conf'.basePath
  options : ∀ name, Option.Rel (ExpandAlike env env' name)
    (conf.options.get? name) (conf'.options.get? name)

/-- The same options are set, and they have the same values but for the secret ones. -/
def OptionsAlike (options options' : Settings) : Prop :=
  ∀ name, Option.Rel (SameOrSecret name) (options.get? name) (options'.get? name)

/-- Configurations that are the same but for the values of the secret options. -/
structure Alike (config config' : Config) : Prop where
  version : config.version = config'.version
  name : config.name = config'.name
  backend : config.backend = config'.backend
  endpoint : config.endpoint = config'.endpoint
  basePath : config.basePath = config'.basePath
  timeout : config.timeout = config'.timeout
  options : OptionsAlike config.options config'.options

section
variable {options options' : Settings}

theorem OptionsAlike.get?_eq (h : OptionsAlike options options') {name : String}
    (hname : ¬(name = "password" ∨ name = "token")) : options.get? name = options'.get? name := by
  have hrel := h name
  generalize options.get? name = value at hrel ⊢
  generalize options'.get? name = value' at hrel ⊢
  cases hrel with
  | none => rfl
  | some hvalue =>
    rcases hvalue with rfl | hsecret
    · rfl
    · exact absurd (hsecret.1.imp_right And.left) hname

theorem OptionsAlike.isSome_get?_eq (h : OptionsAlike options options') (name : String) :
    (options.get? name).isSome = (options'.get? name).isSome :=
  isSome_eq_of_rel (h name)

theorem optionsAlike_empty : OptionsAlike NameMap.empty NameMap.empty := fun _ => .none

theorem OptionsAlike.insert (h : OptionsAlike options options') {name value value' : String}
    (hvalue : SameOrSecret name value value') :
    OptionsAlike (options.insert name value) (options'.insert name value') :=
  NameMap.rel_get?_insert h hvalue

end

/-! ### Loading twice -/

section
variable {env env' : Environment} {conf conf' : Conf}

/-- Expanding options under the same names, one after the other. -/
theorem corresponds_foldlM {visits visits' : List (String × String)} {s s' : Settings}
    (hvisits : List.Forall₂ (fun e e' => e.1 = e'.1 ∧ ExpandAlike env env' e.1 e.2 e'.2)
      visits visits') (hs : OptionsAlike s s') :
    Corresponds Eq OptionsAlike (visits.foldlM (expandNext env) s)
      (visits'.foldlM (expandNext env') s') := by
  induction hvisits generalizing s s' with
  | nil => exact .ok hs
  | @cons e e' _ _ he _ ih =>
    obtain ⟨hname, hvalue⟩ := he
    rw [List.foldlM_cons, List.foldlM_cons]
    refine Corresponds.bind ?_ fun _ _ => ih
    rw [expandNext, expandNext, ← hname]
    exact hvalue.bind fun _ _ hsame => .ok (hs.insert hsame)

theorem SameButSecrets.corresponds_expandOptions (h : SameButSecrets env env' conf conf') :
    Corresponds Eq OptionsAlike (expandOptions env conf.options.entries)
      (expandOptions env' conf'.options.entries) := by
  have hnames : conf.options.names = conf'.options.names :=
    NameMap.names_eq fun name => isSome_eq_of_rel (h.options name)
  have hsame : List.Forall₂ (fun e e' => e.1 = e'.1) conf.options.entries
      conf'.options.entries := by
    rw [NameMap.names, NameMap.names, ← List.forall₂_eq_eq_eq, List.forall₂_map_left_iff,
      List.forall₂_map_right_iff] at hnames
    exact hnames
  obtain ⟨hlength, hname⟩ := List.forall₂_iff_zip.1 hsame
  refine corresponds_foldlM (List.forall₂_iff_zip.2 ⟨hlength, fun {e e'} hmem => ?_⟩)
    optionsAlike_empty
  obtain ⟨he, he'⟩ := List.of_mem_zip hmem
  refine ⟨hname hmem, ?_⟩
  have hrel := h.options e.1
  rw [NameMap.get?_eq_some_iff.2 he, hname hmem, NameMap.get?_eq_some_iff.2 he'] at hrel
  cases hrel with
  | some hvalue =>
    rw [hname hmem]
    exact hvalue

theorem OptionsAlike.timeoutOf_eq {options options' : Settings}
    (h : OptionsAlike options options') :
    timeoutOf options = timeoutOf options' := by
  rw [timeoutOf, timeoutOf, h.get?_eq (by decide)]

theorem SameButSecrets.corresponds_ofConf (h : SameButSecrets env env' conf conf') :
    Corresponds Eq Alike (ofConf env conf) (ofConf env' conf') := by
  have hsame : ∀ {α : Type} (x : Except Failure α), Corresponds Eq Eq x x :=
    corresponds_refl fun _ => rfl
  unfold ofConf ofConfVisiting
  rw [h.backend, h.uri]
  refine (hsame _).bind fun _ _ _ => (hsame _).bind fun _ _ _ => ?_
  refine h.corresponds_expandOptions.bind fun options options' hoptions => ?_
  have hscheme : options.get? "scheme" = options'.get? "scheme" := hoptions.get?_eq (by decide)
  rw [hoptions.timeoutOf_eq, hscheme]
  refine (hsame _).bind fun timeout timeout' htimeout => ?_
  refine (hsame _).bind fun endpoint endpoint' hendpoint => ?_
  obtain rfl := htimeout
  obtain rfl := hendpoint
  refine Corresponds.bind (hsame _) fun _ _ _ => .ok ?_
  exact ⟨h.version, h.name, rfl, rfl, by rw [h.basePath], rfl, hoptions⟩

/-- **Loading does not depend on secret options,** but for their values in the configuration. -/
theorem corresponds_load {text text' : Bytes} (hparse : Conf.parse text = .ok conf)
    (hparse' : Conf.parse text' = .ok conf') (h : SameButSecrets env env' conf conf') :
    Corresponds Eq Alike (load env text) (load env' text') := by
  rw [load, load, hparse, hparse']
  exact h.corresponds_ofConf

end

end Config

end NetDelegate
