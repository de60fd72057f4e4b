/-
  NetDelegate/Proofs/Config/RoundTrip.lean
  ========================================
  **A configuration that is written is read back.**  The written form has every field once, so that
  it says the configuration it was made of, whatever the order in which its options are written
  (`Conf.parse_written`).  So what is loaded from a text is loaded from its rewritten form as well,
  and what has been rewritten stays as it is (`Config.load_written`).
-/
import NetDelegate.Proofs.Config.Options
import NetDelegate.Proofs.Config.Shape
import NetDelegate.Proofs.Json.Compact

namespace NetDelegate

open Json (Outline valuesOf)

/-! ### Printed records -/

namespace Json

/-- A printed object with different names lists each of them once, with the outline of its value. -/
theorem Record.exists_lists_of_texts {σ : Type} (R : Record σ)
    {P : String × Json → Outline .value → Prop} {members : List (String × Json)}
    (hne : members ≠ []) (hnames : (members.map (·.1)).Nodup)
    (h : ∀ p ∈ members, ∃ o : Outline .value, p.2.bytes = o.text ∧ P p o) :
    ∃ (o : Outline .value) (pairs : List (String × Outline .value)),
      bytes (.object members) = o.text ∧ R.Lists o pairs ∧
        ∀ p ∈ members, ∃ v, valuesOf p.1 pairs = [v] ∧ P p v := by
  obtain ⟨o, htext, hentries⟩ := Outline.exists_object_of_texts hne h
  -- entries have the names as they are spelled, pairs have what the spelling stands for
  suffices hpairs : ∃ pairs,
      List.Forall₂ (fun entry (p : String × Outline .value) =>
        textOf? entry.1 = some p.1 ∧ entry.2 = p.2) o.entries pairs ∧
        List.Forall₂ (fun p q => q.1 = p.1 ∧ P p q.2) members pairs by
    obtain ⟨pairs, hlists, hvalues⟩ := hpairs
    exact ⟨.object o, pairs, htext, .object hlists, exists_valuesOf_eq hnames hvalues⟩
  clear hne hnames h htext
  generalize o.entries = entries at hentries ⊢
  induction hentries with
  | nil => exact ⟨[], .nil, .nil⟩
  | @cons entry p entries members hentry _ ih =>
    obtain ⟨pairs, hlists, hvalues⟩ := ih
    exact ⟨(p.1, entry.2) :: pairs, .cons ⟨hentry.1, rfl⟩ hlists, .cons ⟨rfl, hentry.2⟩ hvalues⟩

end Json

/-! ### Written configurations -/

/-- An order in which settings are visited. -/
structure Visiting where
  visits : Settings → List (String × String)
  perm : ∀ settings, (visits settings).Perm settings.entries

namespace Visiting

/-- By name, from the first to the last. -/
def ascending : Visiting := ⟨NameMap.entries, fun _ => List.Perm.refl _⟩

/-- By name, from the last to the first. -/
def descending : Visiting := ⟨fun s => s.entries.reverse, fun s => s.entries.reverse_perm⟩

end Visiting

namespace Conf

/-- The members of the written form: every field, whether it was given or not. -/
def members (c : Conf) (order : Visiting) : List (String × Json) := [
  ("cniVersion", match c.version with | none => .null | some v => .string v),
  ("name", .string c.name),
  ("type", .string c.kind),
  ("storeBackend", .string c.backend),
  ("uri", .string c.uri),
  ("basePath", .string c.basePath),
  ("storeConfig", .object ((order.visits c.options).map fun e => (e.1, .string e.2)))]

/-- The written form, with the options in the given order. -/
def written (c : Conf) (order : Visiting) : Bytes := (Json.object (c.members order)).bytes

theorem names_members (c : Conf) (order : Visiting) :
    (c.members order).map (·.1) = record.fields.map (·.name) := rfl

theorem written_ascending (c : Conf) : c.written .ascending = c.toJson.bytes := rfl

/-- What is read from a text, written again. -/
def rewrite (order : Visiting) (text : Bytes) : Except Json.Error Bytes :=
  (parse text).map fun c => c.written order

variable {c : Conf} {order : Visiting}

/-- The value of a member is read as what it was written for. -/
def IsReadAs (c : Conf) (p : String × Json) (o : Outline .value) : Prop :=
  if p.1 = "storeConfig" then settings? o = some c.options else o.value? = some p.2

/-- Settings are written as an object of strings, one for each visit. -/
theorem exists_outline_visits (visits : List (String × String)) :
    ∃ o : Outline .value,
      Json.bytes (.object (visits.map fun e => (e.1, .string e.2))) = o.text ∧
        o.pairs? string? = some visits := by
  by_cases hne : visits = []
  · subst hne
    exact ⟨.emptyObject Json.noBlanks, rfl, rfl⟩
  · have hvalues : ∀ p ∈ visits.map fun e => (e.1, Json.string e.2),
        ∃ o : Outline .value, p.2.bytes = o.text ∧ o.value? = some p.2 := by
      intro p hp
      obtain ⟨e, -, rfl⟩ := List.mem_map.1 hp
      obtain ⟨o, ho⟩ := (Json.IsExact.string e.2).exists_outline
      exact ⟨o, ho.text, ho.value⟩
    obtain ⟨o, htext, hentries⟩ := Outline.exists_object_of_texts (by simpa using hne) hvalues
    refine ⟨.object o, htext, o.collectMembers_eq_some_iff.2 ?_⟩
    rw [List.forall₂_map_right_iff] at hentries
    exact hentries.imp fun _ _ hentry => ⟨hentry.1, string?_eq_some_iff.2 hentry.2⟩

theorem exists_outline_members (c : Conf) (order : Visiting) :
    ∀ p ∈ c.members order, ∃ o : Outline .value, p.2.bytes = o.text ∧ c.IsReadAs p o := by
  have hexact : ∀ {name : String} {v : Json}, name ≠ "storeConfig" → v.IsExact →
      ∃ o : Outline .value, v.bytes = o.text ∧ c.IsReadAs (name, v) o := by
    intro name v hname hv
    obtain ⟨o, ho⟩ := hv.exists_outline
    exact ⟨o, ho.text, by rw [IsReadAs, if_neg hname]; exact ho.value⟩
  intro p hp
  simp only [members, List.mem_cons, List.not_mem_nil, or_false] at hp
  rcases hp with rfl | rfl | rfl | rfl | rfl | rfl | rfl
  · refine hexact (by decide) ?_
    cases c.version with
    | none => exact .null
    | some v => exact .string v
  · exact hexact (by decide) (.string _)
  · exact hexact (by decide) (.string _)
  · exact hexact (by decide) (.string _)
  · exact hexact (by decide) (.string _)
  · exact hexact (by decide) (.string _)
  · obtain ⟨o, htext, hvisits⟩ := exists_outline_visits (order.visits c.options)
    refine ⟨o, htext, ?_⟩
    rw [IsReadAs, if_pos rfl, settings?, hvisits, Option.map_some,
      NameMap.ofList_of_perm (order.perm _)]

theorem isSaidBy_of_isReadAs {pairs : List (String × Outline .value)}
    (h : ∀ p ∈ c.members order, ∃ v, valuesOf p.1 pairs = [v] ∧ c.IsReadAs p v) :
    IsSaidBy pairs c := by
  -- all fields but the first and the last are texts
  have htext : ∀ {name s : String} {default : Option String}, name ≠ "storeConfig" →
      (name, Json.string s) ∈ c.members order →
        Json.given? string? default (valuesOf name pairs) = some s := by
    intro name s default hname hmem
    obtain ⟨v, hv, hread⟩ := h _ hmem
    rw [IsReadAs, if_neg hname] at hread
    rw [show valuesOf name pairs = [v] from hv]
    exact string?_eq_some_iff.2 hread
  obtain ⟨version, hversions, hversion⟩ := h _ List.mem_cons_self
  obtain ⟨options, hsettings, hoptions⟩ := h
    ("storeConfig", .object ((order.visits c.options).map fun e => (e.1, .string e.2)))
    (by simp [members])
  rw [IsReadAs, if_neg (show "cniVersion" ≠ "storeConfig" by decide)] at hversion
  rw [IsReadAs, if_pos rfl] at hoptions
  exact {
    version := by
      rw [show valuesOf "cniVersion" pairs = [version] from hversions, Json.given?, version?,
        hversion]
      cases c.version with
      | none => rfl
      | some v => rfl
    name := htext (by decide) (by simp [members])
    kind := htext (by decide) (by simp [members])
    backend := htext (by decide) (by simp [members])
    uri := htext (by decide) (by simp [members])
    basePath := htext (by decide) (by simp [members])
    options := by
      rw [show valuesOf "storeConfig" pairs = [options] from hsettings]
      exact hoptions }

/-- **A configuration that is written is read back,** whatever the order of its options. -/
theorem parse_written (c : Conf) (order : Visiting) : parse (c.written order) = .ok c := by
  have hne : c.members order ≠ [] := List.cons_ne_nil _ _
  have hnames : ((c.members order).map (·.1)).Nodup := by
    rw [names_members]
    exact isOrderly.names
  obtain ⟨o, pairs, htext, hlists, hvalues⟩ :=
    record.exists_lists_of_texts hne hnames (c.exists_outline_members order)
  refine parse_eq_ok_iff.2 ⟨Json.noBlanks, o, Json.noBlanks, ?_, pairs, hlists,
    isSaidBy_of_isReadAs hvalues⟩
  rw [written, htext]
  simp [Json.noBlanks]

end Conf

namespace Config

/-- Reads a configuration, visiting its options in the given order. -/
def loadVisiting (env : Environment) (order : Visiting) (text : Bytes) : Except Failure Config :=
  match Conf.parse text with
  | .ok conf => ofConfVisiting env conf (order.visits conf.options)
  | .error e => failWith (.malformedConfig e.text)

theorem loadVisiting_ascending (env : Environment) (text : Bytes) :
    loadVisiting env .ascending text = load env text := rfl

theorem loadVisiting_of_parse {env : Environment} {order : Visiting} {text : Bytes} {conf : Conf}
    (h : Conf.parse text = .ok conf) :
    loadVisiting env order text = ofConfVisiting env conf (order.visits conf.options) := by
  rw [loadVisiting, h]

/-- **Writing and reading again changes nothing.**  A configuration is read back from its written
    form, whatever the order of its options; the written form of what is read from a text is loaded
    as the text is; and what has been rewritten is rewritten as it is. -/
theorem load_written :
    (∀ (c : Conf) (order : Visiting), Conf.parse (c.written order) = .ok c) ∧
      (∀ (text : Bytes) (c : Conf), Conf.parse text = .ok c →
        ∀ (env : Environment) (order order' : Visiting),
          loadVisiting env order' (c.written order) = loadVisiting env order' text) ∧
      ∀ (order : Visiting) (text rewritten : Bytes), Conf.rewrite order text = .ok rewritten →
        Conf.rewrite order rewritten = .ok rewritten := by
  refine ⟨Conf.parse_written, ?_, ?_⟩
  · intro text c hparse env order order'
    rw [loadVisiting_of_parse (c.parse_written order), loadVisiting_of_parse hparse]
  · intro order text rewritten h
    obtain ⟨c, hparse, rfl⟩ := Json.exists_of_map_eq_ok h
    rw [Conf.rewrite, c.parse_written]
    rfl

/-- Members out of order, one that is no field, and an option with a line feed and a quote. -/
def scattered : Bytes :=
  utf8 ("\x7b\"uri\":\"h:1\",\"storeConfig\":\x7b\"token\":\"$\x7bT\x7d\\n\\u0022é\",\"a\":\"\"\x7d," ++
    "\"x\":[1],\"storeBackend\":\"etcd\"\x7d")

/-- What is read from it. -/
def gathered : Conf :=
  ⟨none, "", "", "etcd", "h:1", "", NameMap.ofList [("a", ""), ("token", "$\x7bT\x7d\n\"é")]⟩

/-- The text is rewritten, which changes it once and what is loaded from it never. -/
theorem load_written_scattered :
    let env : Environment := fun _ => none
    let rewritten := gathered.toJson.bytes
    Conf.parse scattered = .ok gathered ∧
      Conf.parse (gathered.written .descending) = .ok gathered ∧
      loadVisiting env .ascending (gathered.written .descending) = load env scattered ∧
      Conf.rewrite .ascending scattered = .ok rewritten ∧ rewritten ≠ scattered ∧
      Conf.rewrite .ascending rewritten = .ok rewritten := by
  intro env rewritten
  have hparse : Conf.parse scattered = .ok gathered := by decide +kernel
  have hrewrite : Conf.rewrite .ascending scattered = .ok rewritten := by
    rw [Conf.rewrite, hparse, Except.map, Conf.written_ascending]
  have hload := load_written.2.1 scattered gathered hparse env .descending .ascending
  rw [loadVisiting_ascending env scattered] at hload
  exact ⟨hparse, load_written.1 gathered .descending, hload, hrewrite, by decide +kernel,
    load_written.2.2 .ascending scattered rewritten hrewrite⟩

end Config

end NetDelegate
