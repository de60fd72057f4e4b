/-
  NetDelegate/Proofs/Config/Conf.lean
  ===================================
  **What a text says as a configuration.**  Of each field at most one value may be there, and the
  backend and the address must be (`Json.given?`, `Conf.IsSaidBy`).  A configuration is read from a
  text just when the text is a value whose named values say it (`Conf.parse_eq_ok_iff`); names that
  are no fields do not count.
-/
import NetDelegate.Config.Conf
import NetDelegate.Proofs.Json.Fields

namespace NetDelegate.Conf

open Json (Outline Record TakesValues given? hold? valuesOf)

/-! ### Values of fields -/

/-- The text that a string stands for. -/
def string? (v : Outline .value) : Option String := v.value?.bind Json.text?

/-- The text that a string stands for, or the lack of one. -/
def version? (v : Outline .value) : Option (Option String) := v.value?.bind Json.textOrNull?

/-- The settings that an object of strings gives. -/
def settings? (v : Outline .value) : Option Settings := (v.pairs? string?).map NameMap.ofList

/-- What the value of a field comes to. -/
def takeField? (name : String) (d : Draft) (v : Outline .value) : Option Draft :=
  if name = "cniVersion" then (version? v).map fun x => { d with version := some x }
  else if name = "name" then (string? v).map fun x => { d with name := some x }
  else if name = "type" then (string? v).map fun x => { d with kind := some x }
  else if name = "storeBackend" then (string? v).map fun x => { d with backend := some x }
  else if name = "uri" then (string? v).map fun x => { d with uri := some x }
  else if name = "basePath" then (string? v).map fun x => { d with basePath := some x }
  else (settings? v).map fun x => { d with options := some x }

theorem isReadBy_readSettings (depth : Nat) (v : Outline .value) :
    v.IsReadBy (readSettings (depth + 1)) (settings? v) := by
  intro before rest hrest
  have hobject : v.IsReadBy (Json.readObject (fun _ => Json.readString) (depth + 1))
      (v.pairs? string?) := Json.isReadBy_readObject Json.isReadBy_readString v
  have hread := hobject before hrest
  rw [readSettings, Outline.toOption_bind_ok NameMap.ofList, hread, settings?, Option.map_map,
    Option.map_map]
  rfl

theorem takesValues_readSettings (depth : Nat) : TakesValues (readSettings depth) := by
  intro input options rest h
  obtain ⟨⟨pairs, left⟩, hobject, hdone⟩ := Json.exists_of_bind_eq_ok h
  cases hdone
  exact Json.GoesAsFar.takesValues (Json.goesAsFar_readObject Json.goesAsFar_readString depth) hobject

theorem readsAs : record.ReadsAs 126 takeField? := by
  intro f hf d v
  simp only [record, List.mem_cons, List.not_mem_nil, or_false] at hf
  rcases hf with rfl | rfl | rfl | rfl | rfl | rfl | rfl
  · exact Record.isReadBy_field (Json.isReadBy_readString? v) d
  · exact Record.isReadBy_field (Json.isReadBy_readString v) d
  · exact Record.isReadBy_field (Json.isReadBy_readString v) d
  · exact Record.isReadBy_field (Json.isReadBy_readString v) d
  · exact Record.isReadBy_field (Json.isReadBy_readString v) d
  · exact Record.isReadBy_field (Json.isReadBy_readString v) d
  · exact Record.isReadBy_field (isReadBy_readSettings 125 v) d

theorem takesValues (d : Draft) : ∀ f ∈ record.fields, TakesValues (f.read 126 d) := by
  have hversion : TakesValues Json.readString? :=
    Json.GoesAsFar.takesValues (Json.goesAsFar_readString? 0)
  have hstring : TakesValues Json.readString :=
    Json.GoesAsFar.takesValues (Json.goesAsFar_readString 0)
  intro f hf
  simp only [record, List.mem_cons, List.not_mem_nil, or_false] at hf
  rcases hf with rfl | rfl | rfl | rfl | rfl | rfl | rfl
  · exact Record.takesValues_field hversion d
  · exact Record.takesValues_field hstring d
  · exact Record.takesValues_field hstring d
  · exact Record.takesValues_field hstring d
  · exact Record.takesValues_field hstring d
  · exact Record.takesValues_field hstring d
  · exact Record.takesValues_field (takesValues_readSettings 126) d

theorem isOrderly : record.IsOrderly takeField? where
  names := by decide
  unset := by decide
  isSet := by
    intro f hf d v d' htake g hg
    simp only [record, List.mem_cons, List.not_mem_nil, or_false] at hf hg
    rcases hf with rfl | rfl | rfl | rfl | rfl | rfl | rfl
    all_goals
      obtain ⟨x, -, rfl⟩ := Option.map_eq_some_iff.1 htake
      rcases hg with rfl | rfl | rfl | rfl | rfl | rfl | rfl
      all_goals rfl

/-! ### One field at a time -/

/-- Taking the value of a field leaves what the others hold. -/
theorem same_of_takeField? {f : Json.Field Draft} (hf : f ∈ record.fields) {d d' : Draft}
    {v : Outline .value} (h : takeField? f.name d v = some d') :
    (f.name ≠ "cniVersion" → d'.version = d.version) ∧ (f.name ≠ "name" → d'.name = d.name) ∧
      (f.name ≠ "type" → d'.kind = d.kind) ∧
      (f.name ≠ "storeBackend" → d'.backend = d.backend) ∧ (f.name ≠ "uri" → d'.uri = d.uri) ∧
      (f.name ≠ "basePath" → d'.basePath = d.basePath) ∧
      (f.name ≠ "storeConfig" → d'.options = d.options) := by
  simp only [record, List.mem_cons, List.not_mem_nil, or_false] at hf
  rcases hf with rfl | rfl | rfl | rfl | rfl | rfl | rfl
  all_goals
    obtain ⟨x, -, rfl⟩ := Option.map_eq_some_iff.1 h
    simp [Record.field]

theorem follows_version : record.Follows takeField? "cniVersion" Draft.version version? where
  field := ⟨_, rfl, fun _ => rfl⟩
  own _ _ := Option.map_map _ _ _
  other _ hf hne _ _ _ h := (same_of_takeField? hf h).1 hne

theorem follows_name : record.Follows takeField? "name" Draft.name string? where
  field := ⟨_, rfl, fun _ => rfl⟩
  own _ _ := Option.map_map _ _ _
  other _ hf hne _ _ _ h := (same_of_takeField? hf h).2.1 hne

theorem follows_kind : record.Follows takeField? "type" Draft.kind string? where
  field := ⟨_, rfl, fun _ => rfl⟩
  own _ _ := Option.map_map _ _ _
  other _ hf hne _ _ _ h := (same_of_takeField? hf h).2.2.1 hne

theorem follows_backend : record.Follows takeField? "storeBackend" Draft.backend string? where
  field := ⟨_, rfl, fun _ => rfl⟩
  own _ _ := Option.map_map _ _ _
  other _ hf hne _ _ _ h := (same_of_takeField? hf h).2.2.2.1 hne

theorem follows_uri : record.Follows takeField? "uri" Draft.uri string? where
  field := ⟨_, rfl, fun _ => rfl⟩
  own _ _ := Option.map_map _ _ _
  other _ hf hne _ _ _ h := (same_of_takeField? hf h).2.2.2.2.1 hne

theorem follows_basePath : record.Follows takeField? "basePath" Draft.basePath string? where
  field := ⟨_, rfl, fun _ => rfl⟩
  own _ _ := Option.map_map _ _ _
  other _ hf hne _ _ _ h := (same_of_takeField? hf h).2.2.2.2.2.1 hne

theorem follows_options : record.Follows takeField? "storeConfig" Draft.options settings? where
  field := ⟨_, rfl, fun _ => rfl⟩
  own _ _ := Option.map_map _ _ _
  other _ hf hne _ _ _ h := (same_of_takeField? hf h).2.2.2.2.2.2 hne

/-! ### Whole texts -/

/-- The named values say the configuration: each field comes to what its one value does, or to its
    default. -/
structure IsSaidBy (pairs : List (String × Outline .value)) (conf : Conf) : Prop where
  version : given? version? (some none) (valuesOf "cniVersion" pairs) = some conf.version
  name : given? string? (some "") (valuesOf "name" pairs) = some conf.name
  kind : given? string? (some "") (valuesOf "type" pairs) = some conf.kind
  backend : given? string? none (valuesOf "storeBackend" pairs) = some conf.backend
  uri : given? string? none (valuesOf "uri" pairs) = some conf.uri
  basePath : given? string? (some "") (valuesOf "basePath" pairs) = some conf.basePath
  options : given? settings? (some NameMap.empty) (valuesOf "storeConfig" pairs) =
    some conf.options

/-- The value says the configuration. -/
def IsSaidByValue (o : Outline .value) (conf : Conf) : Prop :=
  ∃ pairs, record.Lists o pairs ∧ IsSaidBy pairs conf

theorem canTake_of_given? {α : Type} {name : String} {get : Draft → Option α}
    {f : Outline .value → Option α} (h : record.Follows takeField? name get f)
    (hget : get record.initial = none) {g : Json.Field Draft} (hg : record.field? name = some g)
    {default : Option α} {vs : List (Outline .value)} {a : α}
    (hgiven : given? f default vs = some a) :
    Record.CanTake takeField? g record.initial vs := by
  match vs with
  | [] => exact .inl rfl
  | [v] =>
    obtain ⟨g', hg', hset⟩ := h.field
    obtain rfl : g' = g := Option.some.inj (hg'.symm.trans hg)
    refine .inr ⟨by rw [hset, hget]; rfl, v, rfl, fun d => ?_⟩
    have hown := h.own d v
    rw [show f v = some a from hgiven, Option.map_some] at hown
    rw [Record.name_of_field? hg, ← Option.isSome_map, hown]
    rfl
  | v :: w :: vs => cases hgiven

theorem IsSaidBy.exists_foldlM {pairs : List (String × Outline .value)} {conf : Conf}
    (h : IsSaidBy pairs conf) :
    ∃ d, pairs.foldlM (record.takeNamed? takeField?) record.initial = some d := by
  apply isOrderly.exists_foldlM
  intro g hg
  simp only [record, List.mem_cons, List.not_mem_nil, or_false] at hg
  rcases hg with rfl | rfl | rfl | rfl | rfl | rfl | rfl
  · exact canTake_of_given? follows_version rfl rfl h.version
  · exact canTake_of_given? follows_name rfl rfl h.name
  · exact canTake_of_given? follows_kind rfl rfl h.kind
  · exact canTake_of_given? follows_backend rfl rfl h.backend
  · exact canTake_of_given? follows_uri rfl rfl h.uri
  · exact canTake_of_given? follows_basePath rfl rfl h.basePath
  · exact canTake_of_given? follows_options rfl rfl h.options

theorem missing?_eq_none_iff {d : Draft} :
    record.missing? d = none ↔ d.backend.isSome ∧ d.uri.isSome := by
  rw [Record.missing?_eq_none_iff]
  simp [record, Record.field]

theorem or_some_eq_some_iff {α : Type} {x : Option α} {a b : α} :
    x.or (some a) = some b ↔ x.getD a = b := by
  cases x with
  | none => simp
  | some c => simp

/-- The draft that the named values lead to is finished as the configuration that they say. -/
theorem isSaidBy_iff {pairs : List (String × Outline .value)} {d : Draft}
    (hfold : pairs.foldlM (record.takeNamed? takeField?) record.initial = some d) {conf : Conf} :
    IsSaidBy pairs conf ↔ record.missing? d = none ∧ d.finish = conf := by
  have hversion := Json.given?_of_hold? (some none) (follows_version.hold?_eq hfold)
  have hname := Json.given?_of_hold? (some "") (follows_name.hold?_eq hfold)
  have hkind := Json.given?_of_hold? (some "") (follows_kind.hold?_eq hfold)
  have hbackend := Json.given?_of_hold? none (follows_backend.hold?_eq hfold)
  have huri := Json.given?_of_hold? none (follows_uri.hold?_eq hfold)
  have hbasePath := Json.given?_of_hold? (some "") (follows_basePath.hold?_eq hfold)
  have hoptions := Json.given?_of_hold? (some NameMap.empty)
    (follows_options.hold?_eq hfold)
  have hjoin : d.version.join = d.version.getD none := by
    cases d.version with
    | none => rfl
    | some x => rfl
  rw [Option.or_none] at hbackend huri
  rw [missing?_eq_none_iff]
  constructor
  · rintro ⟨h₁, h₂, h₃, h₄, h₅, h₆, h₇⟩
    rw [hversion, or_some_eq_some_iff] at h₁
    rw [hname, or_some_eq_some_iff] at h₂
    rw [hkind, or_some_eq_some_iff] at h₃
    rw [hbackend] at h₄
    rw [huri] at h₅
    rw [hbasePath, or_some_eq_some_iff] at h₆
    rw [hoptions, or_some_eq_some_iff] at h₇
    refine ⟨⟨by rw [h₄]; rfl, by rw [h₅]; rfl⟩, ?_⟩
    obtain ⟨version, name, kind, backend, uri, basePath, options⟩ := conf
    rw [Draft.finish, hjoin, h₁, h₂, h₃, h₄, h₅, h₆, h₇]
    rfl
  · rintro ⟨⟨hbackendSet, huriSet⟩, rfl⟩
    obtain ⟨backend, hbackend'⟩ := Option.isSome_iff_exists.1 hbackendSet
    obtain ⟨uri, huri'⟩ := Option.isSome_iff_exists.1 huriSet
    exact {
      version := by rw [hversion, or_some_eq_some_iff, Draft.finish, hjoin]
      name := by rw [hname, or_some_eq_some_iff, Draft.finish]
      kind := by rw [hkind, or_some_eq_some_iff, Draft.finish]
      backend := by rw [hbackend, Draft.finish, hbackend']; rfl
      uri := by rw [huri, Draft.finish, huri']; rfl
      basePath := by rw [hbasePath, or_some_eq_some_iff, Draft.finish]
      options := by rw [hoptions, or_some_eq_some_iff, Draft.finish] }

/-- **What a configuration is read from:** a value that says it, with blanks around it. -/
theorem parse_eq_ok_iff {text : Bytes} {conf : Conf} :
    parse text = .ok conf ↔ ∃ (before : Json.Blanks) (o : Outline .value) (after : Json.Blanks),
      text = before.1 ++ (o.text ++ after.1) ∧ IsSaidByValue o conf := by
  have hparse {d : Draft} : record.parse text = .ok d ↔
      ∃ (before : Json.Blanks) (o : Outline .value) (after : Json.Blanks),
        text = before.1 ++ (o.text ++ after.1) ∧ record.Gives takeField? o d :=
    Record.parse_eq_ok_iff rfl isOrderly readsAs fun f hf d => takesValues d f hf
  constructor
  · intro h
    obtain ⟨d, hd, hfinish⟩ := Json.exists_of_map_eq_ok h
    obtain ⟨before, o, after, htext, pairs, hlists, hfold, hmissing⟩ := hparse.1 hd
    exact ⟨before, o, after, htext, pairs, hlists, (isSaidBy_iff hfold).2 ⟨hmissing, hfinish⟩⟩
  · rintro ⟨before, o, after, htext, pairs, hlists, hsaid⟩
    obtain ⟨d, hfold⟩ := hsaid.exists_foldlM
    obtain ⟨hmissing, hfinish⟩ := (isSaidBy_iff hfold).1 hsaid
    rw [parse, hparse.2 ⟨before, o, after, htext, pairs, hlists, hfold, hmissing⟩, ← hfinish]
    rfl

end NetDelegate.Conf
