/-
  NetDelegate/Proofs/Store/Registry.lean
  ======================================
  **Which store a name leads to.**  Names are put in small letters where a store is added, and
  stripped of blanks and put in small letters where a configuration is loaded.  The last store that
  was added under the name is opened, one of this library only if none was
  (`Registry.connect_withBackends`).  Names that differ only in case and in the blanks around them
  lead to the same store, since small letters and blanks do not interfere (`nameOf_eq_of_sameName`).
-/
import Mathlib.Logic.Relation
import NetDelegate.Proofs.Config.Load
import NetDelegate.Proofs.Config.Options
import NetDelegate.Proofs.Store.Session
import NetDelegate.Proofs.Text.Lowercase

namespace NetDelegate

namespace Registry

/-! ### Names -/

/-- The name under which a store is looked up. -/
def nameOf (backend : String) : String := lowercase (trim backend)

/-- The texts differ only in case and in the blanks around them. -/
def SameName : String → String → Prop :=
  Relation.EqvGen fun s t => lowercase s = lowercase t ∨ trim s = trim t

theorem nameOf_eq_of_sameName {s t : String} (h : SameName s t) : nameOf s = nameOf t := by
  induction h with
  | rel s t hst =>
    rcases hst with hcase | hblanks
    · exact lowercase_trim_congr hcase
    · rw [nameOf, hblanks, nameOf]
  | refl s => rfl
  | symm s t _ ih => exact ih.symm
  | trans s t u _ _ hst htu => exact hst.trans htu

/-! ### Stores that are added -/

/-- A registry after these calls, one after the other. -/
def withBackends (r : Registry) (calls : List (String × Connector)) : Registry :=
  calls.foldl (fun r call => r.withBackend call.1 call.2) r

/-- What the last of the calls under a name adds. -/
def lastAdded? (calls : List (String × Connector)) (name : String) : Option Connector :=
  (calls.reverse.find? fun call => lowercase call.1 = name).map (·.2)

/-- The stores of this library. -/
def own? (name : String) : Option Connector :=
  if name = Consul.backend then some Consul.connect
  else if name = Etcd.backend then some Etcd.connect
  else none

/-- A registry to which stores are added, and the stores that it has before. -/
inductive IsStart : Registry → (String → Option Connector) → Prop
  | empty : IsStart empty fun _ => none
  | builtin : IsStart builtin own?

theorem get?_withBackend (r : Registry) (tag : String) (connector : Connector) (name : String) :
    (r.withBackend tag connector).connectors.get? name =
      if name = lowercase tag then some connector else r.connectors.get? name :=
  NameMap.get?_insert r.connectors (lowercase tag) name connector

theorem get?_withBackends (r : Registry) (calls : List (String × Connector)) (name : String) :
    (r.withBackends calls).connectors.get? name =
      (lastAdded? calls name).or (r.connectors.get? name) := by
  have hconnectors : (r.withBackends calls).connectors =
      calls.foldl (fun m call => m.insert (lowercase call.1) call.2) r.connectors :=
    (List.foldl_hom connectors fun _ _ => rfl).symm
  rw [hconnectors, NameMap.get?_foldl_insert, lastAdded?]

theorem IsStart.get?_eq {start : Registry} {had? : String → Option Connector}
    (h : IsStart start had?) (name : String) : start.connectors.get? name = had? name := by
  cases h with
  | empty => rfl
  | builtin =>
    have hconsul : lowercase Consul.backend = Consul.backend := by decide +kernel
    have hetcd : lowercase Etcd.backend = Etcd.backend := by decide +kernel
    rw [Registry.builtin, get?_withBackend, get?_withBackend, hconsul, hetcd]
    rfl

/-- A connection is opened with what is found under the name, or not at all. -/
theorem connect_eq (r : Registry) (config : Config) :
    r.connect config = (r.connectors.get? config.backend).elim
      (Session.fail (.unsupportedBackend config.backend)) fun connector => connector config := by
  unfold connect
  cases r.connectors.get? config.backend with
  | none => rfl
  | some connector => rfl

theorem lastAdded?_isSome_iff {calls : List (String × Connector)} {name : String} :
    (lastAdded? calls name).isSome ↔ ∃ call ∈ calls, lowercase call.1 = name := by
  simp [lastAdded?]

theorem mem_backends_iff (r : Registry) (name : String) :
    name ∈ r.backends ↔ (r.connectors.get? name).isSome := by
  rw [backends, ← not_iff_not, ← NameMap.get?_eq_none_iff, Option.not_isSome_iff_eq_none]

theorem pairwise_backends (r : Registry) : r.backends.Pairwise (· < ·) :=
  List.pairwise_map.2 r.connectors.sorted

/-! ### Opening a connection -/

/-- The connector never says that the store is not known. -/
def Knows (connector : Connector) : Prop :=
  ∀ config net log backend, (connector config net log).1 ≠ .error (.unsupportedBackend backend)

theorem knows_of_probe (probeDraft : Config → Draft) (store : Config → Store) :
    Knows fun config => do
      Store.probe config (probeDraft config)
      return store config := by
  intro config net log backend h
  have hprobe := Store.probe_of_open_error h
  unfold Store.probe at hprobe
  split at hprobe
  · next fault _ _ =>
    cases fault with
    | badHeader => cases hprobe
    | badAddress url => cases hprobe
    | failed url => cases hprobe
    | timedOut url => cases hprobe
  · split at hprobe
    · cases hprobe
    · cases hprobe

theorem knows_consul : Knows Consul.connect := by
  rw [funext Consul.connect_eq]
  exact knows_of_probe _ fun config => ⟨Consul.backend, Consul.get config⟩

theorem knows_etcd : Knows Etcd.connect := by
  rw [funext Etcd.connect_eq]
  exact knows_of_probe _ fun config => ⟨Etcd.backend, Etcd.get config⟩

theorem knows_own {name : String} {connector : Connector} (h : own? name = some connector) :
    Knows connector := by
  by_cases hconsul : name = Consul.backend
  · rw [own?, if_pos hconsul] at h
    exact Option.some.inj h ▸ knows_consul
  · by_cases hetcd : name = Etcd.backend
    · rw [own?, if_neg hconsul, if_pos hetcd] at h
      exact Option.some.inj h ▸ knows_etcd
    · rw [own?, if_neg hconsul, if_neg hetcd] at h
      cases h

theorem IsStart.knows {start : Registry} {had? : String → Option Connector}
    (h : IsStart start had?) {name : String} {connector : Connector}
    (hhad : had? name = some connector) : Knows connector := by
  cases h with
  | empty => cases hhad
  | builtin => exact knows_own hhad

/-- **Which store is opened.**  For a registry that is built from one of the two starts by any calls,
    and a configuration that is loaded with any name for its store: what the last call under that
    name added is opened, else what the start has under it, and if there is neither, and only then,
    opening fails since the name is not known, unless a store that was added fails so itself.  The
    names of the registry are listed in ascending order, each once.  Names that differ only in case
    and in the blanks around them lead to the same, and adding a store under another name changes
    nothing. -/
theorem connect_withBackends {env : Environment} {text : Bytes} {config : Config}
    (hload : Config.load env text = .ok config) {start : Registry}
    {had? : String → Option Connector} (hstart : IsStart start had?)
    (calls : List (String × Connector)) :
    ∃ conf, Conf.parse text = .ok conf ∧
      let name := lowercase (trim conf.backend)
      let registry := start.withBackends calls
      let found? := (lastAdded? calls name).or (had? name)
      let reaches (config : Config) := registry.connect config =
        found?.elim (Session.fail (.unsupportedBackend name)) fun connector => connector config
      reaches config ∧
      (found? = none ↔ (∀ call ∈ calls, lowercase call.1 ≠ name) ∧ had? name = none) ∧
      ((∀ call ∈ calls, Knows call.2) → ∀ net log,
        (registry.connect config net log).1 = .error (.unsupportedBackend name) ↔ found? = none) ∧
      (registry.backends.Pairwise (· < ·) ∧ ∀ tag, tag ∈ registry.backends ↔
        (∃ call ∈ calls, lowercase call.1 = tag) ∨ (had? tag).isSome) ∧
      (∀ env' text' config' conf', Config.load env' text' = .ok config' →
        Conf.parse text' = .ok conf' → SameName conf.backend conf'.backend → reaches config') ∧
      ∀ tag connector, lowercase tag ≠ name →
        (registry.withBackend tag connector).connect config = registry.connect config := by
  obtain ⟨conf, hloads⟩ := Config.load_eq_ok_iff.1 hload
  refine ⟨conf, hloads.parsed, ?_⟩
  intro name registry found? reaches
  have hget : ∀ tag, registry.connectors.get? tag = (lastAdded? calls tag).or (had? tag) := by
    intro tag
    rw [← hstart.get?_eq]
    exact get?_withBackends start calls tag
  have hreaches : ∀ other : Config, other.backend = name → reaches other := by
    intro other hother
    have hopen := connect_eq registry other
    rw [hother, hget] at hopen
    exact hopen
  have hconnect := hreaches config hloads.backend
  refine ⟨hconnect, ?_, ?_, ⟨pairwise_backends registry, ?_⟩, ?_, ?_⟩
  · rw [Option.or_eq_none_iff, ← Option.not_isSome_iff_eq_none, lastAdded?_isSome_iff]
    simp
  · intro hknows net log
    rw [hconnect]
    cases hfound : found? with
    | none => exact iff_of_true rfl rfl
    | some connector =>
      -- what is found was added by a call or is one of the start, and both know the store
      refine iff_of_false ?_ nofun
      rcases Option.or_eq_some_iff.1 hfound with hadded | ⟨-, hhad⟩
      · obtain ⟨call, hcall, rfl⟩ := Option.map_eq_some_iff.1 hadded
        exact hknows call (List.mem_reverse.1 (List.mem_of_find?_eq_some hcall)) config net log name
      · exact hstart.knows hhad config net log name
  · intro tag
    rw [mem_backends_iff, hget, Option.isSome_or, Bool.or_eq_true, lastAdded?_isSome_iff]
  · intro env' text' config' conf' hload' hparse hsame
    obtain ⟨conf'', hloads'⟩ := Config.load_eq_ok_iff.1 hload'
    obtain rfl : conf'' = conf' := Except.ok.inj (hloads'.parsed.symm.trans hparse)
    exact hreaches config' (hloads'.backend.trans (nameOf_eq_of_sameName hsame).symm)
  · intro tag connector hother
    rw [connect_withBackend, if_neg]
    rw [hloads.backend]
    exact Ne.symm hother

/-- A store that is replaced twice, and found under a name with other letters and blanks. -/
theorem connect_withBackends_etcd : ∃ config,
    Config.load (fun _ => none)
      (utf8 "\x7b\"storeBackend\":\" eTCD\\t\",\"uri\":\"h:1\"\x7d") = .ok config ∧
    ∀ first second : Connector,
      (builtin.withBackends [("Etcd", first), ("ETCD", second)]).connect config =
        second config := by
  obtain ⟨config, hload, hfound⟩ : ∃ config,
      Config.load (fun _ => none)
        (utf8 "\x7b\"storeBackend\":\" eTCD\\t\",\"uri\":\"h:1\"\x7d") = .ok config ∧
        config.backend = "etcd" := Config.exists_load_of_map (by decide +kernel)
  refine ⟨config, hload, fun first second => ?_⟩
  obtain ⟨conf, hparse, hconnect, -⟩ :=
    connect_withBackends hload IsStart.builtin [("Etcd", first), ("ETCD", second)]
  obtain ⟨conf', hloads⟩ := Config.load_eq_ok_iff.1 hload
  obtain rfl : conf' = conf := Except.ok.inj (hloads.parsed.symm.trans hparse)
  have hsmall : lowercase "ETCD" = "etcd" := by decide +kernel
  rw [← hloads.backend, hfound] at hconnect
  simpa [lastAdded?, hsmall] using hconnect

end Registry

end NetDelegate
