/-
  NetDelegate/Proofs/Config/Options.lean
  ======================================
  **The options of a configuration,** name by name.  A map is told by what is looked up in it
  (`NameMap.ext_get?`).  Expanding options keeps the names and replaces the references in each
  value, whatever the order in which the options are visited (`expandOptions_eq_ok_iff`); so the
  order does not count for which configuration comes of them (`ofConfVisiting_eq_ok_iff`).
-/
import Mathlib.Data.List.Nodup
import NetDelegate.Proofs.Config.Expansion

namespace NetDelegate

namespace NameMap

variable {α : Type} {m n : NameMap α} {name : String}

/-- Maps that are related name by name stay so where a name is set to related values in both. -/
theorem rel_get?_insert {β : Type} {m : NameMap α} {n : NameMap β} {R : String → α → β → Prop}
    (h : ∀ name, Option.Rel (R name) (m.get? name) (n.get? name)) {name : String} {x : α} {y : β}
    (hxy : R name x y) (other : String) :
    Option.Rel (R other) ((m.insert name x).get? other) ((n.insert name y).get? other) := by
  rw [get?_insert, get?_insert]
  by_cases hother : other = name
  · rw [if_pos hother, if_pos hother, hother]
    exact .some hxy
  · rw [if_neg hother, if_neg hother]
    exact h other

theorem nodup_names (m : NameMap α) : m.names.Nodup := by
  rw [names, List.nodup_iff_pairwise_ne, List.pairwise_map]
  exact m.sorted.imp fun h => String.ne_of_lt h

/-- Among different names the first that is found is the only one. -/
theorem map_find?_eq_some_iff {es : List (String × α)} (h : (es.map (·.1)).Nodup) {value : α} :
    (es.find? fun e => e.1 = name).map (·.2) = some value ↔ (name, value) ∈ es := by
  rw [Option.map_eq_some_iff]
  constructor
  · rintro ⟨e, hfound, rfl⟩
    have hname : e.1 = name := by simpa using List.find?_some hfound
    rw [← hname]
    exact List.mem_of_find?_eq_some hfound
  · intro hmem
    have hisSome : (es.find? fun e => e.1 = name).isSome := List.find?_isSome.2 ⟨_, hmem, by simp⟩
    obtain ⟨e, hfound⟩ := Option.isSome_iff_exists.1 hisSome
    have hname : e.1 = name := by simpa using List.find?_some hfound
    have he := List.inj_on_of_nodup_map h (List.mem_of_find?_eq_some hfound) hmem hname
    exact ⟨e, hfound, by rw [he]⟩

theorem get?_eq_some_iff {value : α} : m.get? name = some value ↔ (name, value) ∈ m.entries :=
  map_find?_eq_some_iff m.nodup_names

theorem get?_eq_none_iff : m.get? name = none ↔ name ∉ m.names := by
  rw [Option.eq_none_iff_forall_ne_some, names]
  simp only [ne_eq, get?_eq_some_iff, List.mem_map, Prod.exists, exists_and_right, exists_eq_right,
    not_exists]

/-- Maps in which the same is found are equal. -/
theorem ext_get? (h : ∀ name, m.get? name = n.get? name) : m = n := by
  have hnodup : ∀ k : NameMap α, k.entries.Nodup := fun k => k.nodup_names.of_map _
  apply ext
  refine List.Perm.eq_of_pairwise ?_ m.sorted n.sorted
    ((List.perm_ext_iff_of_nodup (hnodup m) (hnodup n)).2 fun e => ?_)
  · intro a b _ _ hab hba
    exact absurd (String.lt_trans hab hba) (String.lt_irrefl _)
  · rw [← get?_eq_some_iff, h, get?_eq_some_iff]

/-- What was set last under a name is found, and what was there before if nothing was set. -/
theorem get?_foldl_insert {β : Type} (key : β → String) (value : β → α) (bs : List β)
    (m : NameMap α) (name : String) :
    (bs.foldl (fun m b => m.insert (key b) (value b)) m).get? name =
      ((bs.reverse.find? fun b => key b = name).map value).or (m.get? name) := by
  induction bs generalizing m with
  | nil => rfl
  | cons b bs ih =>
    rw [List.foldl_cons, ih, get?_insert, List.reverse_cons, List.find?_append, Option.map_or,
      Option.or_assoc]
    congr 1
    by_cases hname : name = key b
    · simp [hname]
    · simp [hname, Ne.symm hname]

/-- A map is made of its entries, in whatever order they come. -/
theorem ofList_of_perm {es : List (String × α)} (h : es.Perm m.entries) : ofList es = m := by
  have hnodup : (es.reverse.map (·.1)).Nodup :=
    ((es.reverse_perm.trans h).map _).nodup_iff.2 m.nodup_names
  refine ext_get? fun name => Option.ext fun value => ?_
  rw [ofList, get?_foldl_insert Prod.fst Prod.snd, show empty.get? name = (none : Option α) from rfl,
    Option.or_none, map_find?_eq_some_iff hnodup, get?_eq_some_iff, List.mem_reverse, h.mem_iff]

end NameMap

namespace Config

variable {env : Environment} {given expanded : Settings} {visits : List (String × String)}

/-- One step of the expansion of options. -/
def expandNext (env : Environment) (s : Settings) (e : String × String) :
    Except Failure Settings := do
  let value ← expandOption env e.1 e.2
  .ok (s.insert e.1 value)

theorem expandNext_eq_ok_iff {s : Settings} {e : String × String} :
    expandNext env s e = .ok expanded ↔
      ∃ value, expandOption env e.1 e.2 = .ok value ∧ expanded = s.insert e.1 value := by
  rw [expandNext]
  cases expandOption env e.1 e.2 with
  | error f => simp [bind, Except.bind]
  | ok value => simp [bind, Except.bind, eq_comm]

theorem expandNext_cons_eq_ok_iff {s : Settings} {e : String × String} :
    (e :: visits).foldlM (expandNext env) s = .ok expanded ↔
      ∃ value, expandOption env e.1 e.2 = .ok value ∧
        visits.foldlM (expandNext env) (s.insert e.1 value) = .ok expanded := by
  rw [List.foldlM_cons]
  cases hnext : expandNext env s e with
  | error f =>
    constructor
    · intro h
      cases h
    · rintro ⟨value, hvalue, -⟩
      rw [expandNext_eq_ok_iff.2 ⟨value, hvalue, rfl⟩] at hnext
      cases hnext
  | ok s' =>
    obtain ⟨value, hvalue, rfl⟩ := expandNext_eq_ok_iff.1 hnext
    simp only [hvalue, Except.ok.injEq, exists_eq_left']
    rfl

/-- A name that is not visited keeps what it has. -/
theorem get?_of_notMem {s : Settings} {name : String}
    (h : visits.foldlM (expandNext env) s = .ok expanded) (hname : name ∉ visits.map (·.1)) :
    expanded.get? name = s.get? name := by
  induction visits generalizing s with
  | nil =>
    cases h
    rfl
  | cons e visits ih =>
    rw [List.map_cons, List.mem_cons, not_or] at hname
    obtain ⟨value, -, honward⟩ := expandNext_cons_eq_ok_iff.1 h
    rw [ih honward hname.2, NameMap.get?_insert, if_neg hname.1]

/-- A name that is visited once gets its value with the references replaced. -/
theorem exists_get?_of_mem {s : Settings} {name value : String}
    (hnodup : (visits.map (·.1)).Nodup) (h : visits.foldlM (expandNext env) s = .ok expanded)
    (hmem : (name, value) ∈ visits) :
    ∃ v, expandOption env name value = .ok v ∧ expanded.get? name = some v := by
  induction visits generalizing s with
  | nil => cases hmem
  | cons e visits ih =>
    rw [List.map_cons, List.nodup_cons] at hnodup
    obtain ⟨v, hv, honward⟩ := expandNext_cons_eq_ok_iff.1 h
    rcases List.mem_cons.1 hmem with rfl | hmem
    · refine ⟨v, hv, ?_⟩
      rw [get?_of_notMem honward hnodup.1, NameMap.get?_insert, if_pos rfl]
    · exact ih hnodup.2 honward hmem

theorem exists_foldlM_eq_ok (h : ∀ e ∈ visits, ∃ v, expandOption env e.1 e.2 = .ok v)
    (s : Settings) : ∃ expanded, visits.foldlM (expandNext env) s = .ok expanded := by
  induction visits generalizing s with
  | nil => exact ⟨s, rfl⟩
  | cons e visits ih =>
    obtain ⟨v, hv⟩ := h e List.mem_cons_self
    obtain ⟨expanded, honward⟩ := ih (fun e he => h e (List.mem_cons_of_mem _ he)) (s.insert e.1 v)
    exact ⟨expanded, expandNext_cons_eq_ok_iff.2 ⟨v, hv, honward⟩⟩

/-- The same names are bound, and each to its value with the references replaced. -/
def Expands (env : Environment) (given expanded : Settings) : Prop :=
  ∀ name, Option.Rel (fun value v => expandOption env name value = .ok v)
    (given.get? name) (expanded.get? name)

theorem Expands.insert (h : Expands env given expanded) {name value v : String}
    (hv : expandOption env name value = .ok v) :
    Expands env (given.insert name value) (expanded.insert name v) :=
  NameMap.rel_get?_insert h hv

theorem expands_of_expandOptions (hvisits : visits.Perm given.entries)
    (h : expandOptions env visits = .ok expanded) : Expands env given expanded := by
  have hnodup : (visits.map (·.1)).Nodup := (hvisits.map _).nodup_iff.2 given.nodup_names
  intro name
  cases hgiven : given.get? name with
  | none =>
    have hname : name ∉ visits.map (·.1) := fun hmem =>
      NameMap.get?_eq_none_iff.1 hgiven ((hvisits.map _).mem_iff.1 hmem)
    rw [get?_of_notMem h hname]
    exact .none
  | some value =>
    have hmem : (name, value) ∈ visits := hvisits.mem_iff.2 (NameMap.get?_eq_some_iff.1 hgiven)
    obtain ⟨v, hv, hfound⟩ := exists_get?_of_mem hnodup h hmem
    rw [hfound]
    exact .some hv

theorem Expands.eq {expanded' : Settings} (h : Expands env given expanded)
    (h' : Expands env given expanded') : expanded = expanded' := by
  refine NameMap.ext_get? fun name => ?_
  have hname := h name
  have hname' := h' name
  generalize given.get? name = value at hname hname'
  generalize expanded.get? name = v at hname ⊢
  generalize expanded'.get? name = v' at hname' ⊢
  cases hname with
  | none =>
    cases hname'
    rfl
  | some hv =>
    cases hname' with
    | some hv' =>
      rw [hv] at hv'
      cases hv'
      rfl

/-- **Expanding options** keeps the names and replaces the references in each value, in whatever
    order the options are visited. -/
theorem expandOptions_eq_ok_iff (hvisits : visits.Perm given.entries) :
    expandOptions env visits = .ok expanded ↔ Expands env given expanded := by
  constructor
  · exact expands_of_expandOptions hvisits
  · intro h
    have hall : ∀ e ∈ visits, ∃ v, expandOption env e.1 e.2 = .ok v := by
      intro e he
      have hname := h e.1
      rw [NameMap.get?_eq_some_iff.2 (hvisits.mem_iff.1 he)] at hname
      generalize expanded.get? e.1 = found at hname
      cases hname with
      | some hv => exact ⟨_, hv⟩
    obtain ⟨expanded', h'⟩ := exists_foldlM_eq_ok hall NameMap.empty
    rw [h.eq (expands_of_expandOptions hvisits h')]
    exact h'

/-- The order in which the options are visited does not count for the configuration. -/
theorem ofConfVisiting_eq_ok_iff {conf : Conf} {config : Config}
    (hvisits : visits.Perm conf.options.entries) :
    ofConfVisiting env conf visits = .ok config ↔ ofConf env conf = .ok config := by
  have hsame : ∀ options, expandOptions env visits = .ok options ↔
      expandOptions env conf.options.entries = .ok options := by
    intro options
    rw [expandOptions_eq_ok_iff hvisits, expandOptions_eq_ok_iff (List.Perm.refl _)]
  unfold ofConf ofConfVisiting
  cases hexpanded : expandOptions env visits with
  | ok options => rw [(hsame options).1 hexpanded]
  | error f =>
    cases hexpanded' : expandOptions env conf.options.entries with
    | ok options =>
      rw [(hsame options).2 hexpanded'] at hexpanded
      cases hexpanded
    | error f' =>
      cases require "storeBackend" conf.backend with
      | error _ => rfl
      | ok _ =>
        cases require "uri" conf.uri with
        | error _ => rfl
        | ok _ => simp [bind, Except.bind]

end Config

end NetDelegate
