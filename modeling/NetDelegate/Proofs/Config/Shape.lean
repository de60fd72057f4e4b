/-
  NetDelegate/Proofs/Config/Shape.lean
  ====================================
  **The shape of what is loaded.**  Whatever configuration is loaded, its text is an object or an
  array, with blanks around it, that lists a backend and an address, each once and as a string that
  is not blank, and the other fields once at most and as values of their types
  (`Config.hasShape_of_load`).  Arrays are loaded as well as objects, and a member that is no field may
  hold a string that is no text (`Config.load_no_object`).
-/
import NetDelegate.Proofs.Config.Conf
import NetDelegate.Proofs.Config.WellFormed

namespace NetDelegate

open Json (Blanks Outline valuesOf)

/-! ### Objects and arrays -/

/-- The text is a value of the grammar of this sort, between blanks. -/
def Json.IsWrittenAs (sort : Json.Sorts) (text : Bytes) : Prop :=
  ∃ (before : Blanks) (o : Outline .value) (after : Blanks),
    text = before.1 ++ (o.text ++ after.1) ∧ o.sort = sort

/-- The text is JSON of this sort: a value of the grammar, and the bytes of a text. -/
def Json.IsJson (sort : Json.Sorts) (text : Bytes) : Prop :=
  IsWrittenAs sort text ∧ ∃ s, text = utf8 s

theorem Json.sort_eq_of_text_eq {before before' : Blanks} {o o' : Outline .value}
    {rest rest' : Bytes} (h : before.1 ++ (o.text ++ rest) = before'.1 ++ (o'.text ++ rest')) :
    o.sort = o'.sort := by
  have hskip := congrArg Json.skipSpace h
  rw [o.skipSpace_text, o'.skipSpace_text] at hskip
  obtain ⟨b, more, hhead, hb⟩ := o.exists_head_sort rest
  obtain ⟨b', more', hhead', hb'⟩ := o'.exists_head_sort rest'
  rw [hhead, hhead'] at hskip
  rw [(List.cons.inj hskip).1, hb'] at hb
  exact (Option.some.inj hb).symm

namespace Conf

/-! ### Values of the right type -/

theorem string?_eq_some_iff {v : Outline .value} {s : String} :
    string? v = some s ↔ v.value? = some (.string s) := by
  rw [string?, Option.bind_eq_some_iff]
  constructor
  · rintro ⟨j, hj, hs⟩
    cases j with
    | string t =>
      cases hs
      exact hj
    | _ => cases hs
  · intro h
    exact ⟨_, h, rfl⟩

theorem of_version? {v : Outline .value} {x : Option String} (h : version? v = some x) :
    v.value? = some .null ∨ ∃ s, v.value? = some (.string s) := by
  obtain ⟨j, hj, hx⟩ := Option.bind_eq_some_iff.1 h
  cases j with
  | null => exact .inl hj
  | string s => exact .inr ⟨s, hj⟩
  | _ => cases hx

/-- An object of strings: its names are texts, and its values strings. -/
inductive IsTextObject : Outline .value → Prop
  | empty (blanks : Blanks) : IsTextObject (.emptyObject blanks)
  | object {members : Outline .members}
      (h : ∀ entry ∈ members.entries, (∃ name, Json.textOf? entry.1 = some name) ∧
        ∃ s, entry.2.value? = some (.string s)) : IsTextObject (.object members)

theorem isTextObject_of_settings? {v : Outline .value} {options : Settings}
    (h : settings? v = some options) : IsTextObject v := by
  obtain ⟨ps, hps, -⟩ := Option.map_eq_some_iff.1 h
  cases v with
  | emptyObject blanks => exact .empty blanks
  | object members =>
    have hentries := members.collectMembers_eq_some_iff.1 hps
    exact .object ((List.forall₂_and_left _ _).1 (hentries.imp fun _ _ hentry =>
      ⟨⟨⟨_, hentry.1⟩, _, string?_eq_some_iff.1 hentry.2⟩, hentry⟩)).1
  | _ => cases hps

/-! ### The shape -/

/-- One value stands under the name, and it is a string that is not blank. -/
def StandsOnce (name : String) (pairs : List (String × Outline .value)) : Prop :=
  ∃ v s, valuesOf name pairs = [v] ∧ v.value? = some (.string s) ∧
    ∃ c ∈ s.toList, isBlank c = false

/-- The named values have the shape of a configuration. -/
structure IsShaped (pairs : List (String × Outline .value)) : Prop where
  backend : StandsOnce "storeBackend" pairs
  uri : StandsOnce "uri" pairs
  version : ∀ v ∈ valuesOf "cniVersion" pairs,
    v.value? = some .null ∨ ∃ s, v.value? = some (.string s)
  texts : ∀ name ∈ ["name", "type", "basePath"], ∀ v ∈ valuesOf name pairs,
    ∃ s, v.value? = some (.string s)
  options : ∀ v ∈ valuesOf "storeConfig" pairs, IsTextObject v
  once : ∀ name ∈ record.fields.map (·.name), (valuesOf name pairs).length ≤ 1

theorem forall_of_given? {α : Type} {f : Outline .value → Option α} {default : Option α}
    {vs : List (Outline .value)} {a : α} (h : Json.given? f default vs = some a) :
    (∀ v ∈ vs, f v = some a) ∧ vs.length ≤ 1 := by
  rcases Json.given?_eq_some_iff.1 h with ⟨rfl, -⟩ | ⟨v, rfl, hv⟩
  · exact ⟨List.forall_mem_nil _, Nat.zero_le _⟩
  · exact ⟨List.forall_mem_singleton.2 hv, Nat.le_refl _⟩

theorem standsOnce_of_given? {name : String} {pairs : List (String × Outline .value)} {s : String}
    (h : Json.given? string? none (valuesOf name pairs) = some s) (hblank : isBlankText s = false) :
    StandsOnce name pairs := by
  rcases Json.given?_eq_some_iff.1 h with ⟨-, hnone⟩ | ⟨v, hv, hs⟩
  · cases hnone
  · exact ⟨v, s, hv, string?_eq_some_iff.1 hs, Config.exists_of_isBlankText_eq_false hblank⟩

theorem IsSaidBy.isShaped {pairs : List (String × Outline .value)} {conf : Conf}
    (h : IsSaidBy pairs conf) (hbackend : isBlankText conf.backend = false)
    (huri : isBlankText conf.uri = false) : IsShaped pairs where
  backend := standsOnce_of_given? h.backend hbackend
  uri := standsOnce_of_given? h.uri huri
  version v hv := of_version? ((forall_of_given? h.version).1 v hv)
  texts name hname v hv := by
    simp only [List.mem_cons, List.not_mem_nil, or_false] at hname
    rcases hname with rfl | rfl | rfl
    · exact ⟨_, string?_eq_some_iff.1 ((forall_of_given? h.name).1 v hv)⟩
    · exact ⟨_, string?_eq_some_iff.1 ((forall_of_given? h.kind).1 v hv)⟩
    · exact ⟨_, string?_eq_some_iff.1 ((forall_of_given? h.basePath).1 v hv)⟩
  options v hv := isTextObject_of_settings? ((forall_of_given? h.options).1 v hv)
  once name hname := by
    simp only [record, Json.Record.field, List.map_cons, List.map_nil, List.mem_cons,
      List.not_mem_nil, or_false] at hname
    rcases hname with rfl | rfl | rfl | rfl | rfl | rfl | rfl
    · exact (forall_of_given? h.version).2
    · exact (forall_of_given? h.name).2
    · exact (forall_of_given? h.kind).2
    · exact (forall_of_given? h.backend).2
    · exact (forall_of_given? h.uri).2
    · exact (forall_of_given? h.basePath).2
    · exact (forall_of_given? h.options).2

end Conf

namespace Config

/-- **What is loaded has the shape of a configuration.**  The text is an object or an array, with
    blanks around it; and it is a JSON object just when it is not an array and its bytes are those of
    a text. -/
theorem hasShape_of_load {env : Environment} {text : Bytes} {config : Config}
    (h : load env text = .ok config) :
    (Json.IsJson .object text ↔ ¬Json.IsWrittenAs .array text ∧ ∃ s, text = utf8 s) ∧
      ∃ (before : Blanks) (o : Outline .value) (after : Blanks)
        (pairs : List (String × Outline .value)),
        text = before.1 ++ (o.text ++ after.1) ∧ (o.sort = .array ∨ o.sort = .object) ∧
          Conf.record.Lists o pairs ∧ Conf.IsShaped pairs := by
  obtain ⟨conf, hloads⟩ := load_eq_ok_iff.1 h
  obtain ⟨before, o, after, rfl, pairs, hlists, hsaid⟩ := Conf.parse_eq_ok_iff.1 hloads.parsed
  have hsort := hlists.sort_eq
  have hwritten : ∀ sort, Json.IsWrittenAs sort (before.1 ++ (o.text ++ after.1)) ↔ o.sort = sort := by
    intro sort
    constructor
    · rintro ⟨before', o', after', htext, rfl⟩
      exact Json.sort_eq_of_text_eq htext
    · intro hsort
      exact ⟨before, o, after, rfl, hsort⟩
  refine ⟨?_, before, o, after, pairs, rfl, hsort, hlists,
    hsaid.isShaped hloads.backend_given hloads.uri_given⟩
  refine and_congr_left fun _ => ?_
  rw [hwritten, hwritten]
  rcases hsort with harray | hobject
  · simp [harray]
  · simp [hobject]

/-- The two required members out of order, between members that are no fields. -/
def looseObject : Bytes :=
  utf8 ("\x7b\"a\":[1],\"uri\":\"h:1\",\"storeBackend\":\"etcd\",\"cniVersion\":null," ++
    "\"b\":\x7b\"a\":2\x7d\x7d")

/-- The values of the first five fields, as the items of an array. -/
def valueArray : Bytes := utf8 "[null,\"\",\"\",\"etcd\",\"h:1\"]"

/-- An object in which a member that is no field has a string that is no text. -/
def textlessObject : Bytes :=
  utf8 "\x7b\"storeBackend\":\"etcd\",\"uri\":\"h:1\",\"x\":\"" ++ 0xFF :: utf8 "\"\x7d"

theorem hasShape_of_load_looseObject : ∃ config, load (fun _ => none) looseObject = .ok config ∧
    ∃ (before : Blanks) (o : Outline .value) (after : Blanks)
      (pairs : List (String × Outline .value)),
      looseObject = before.1 ++ (o.text ++ after.1) ∧ Conf.record.Lists o pairs ∧
        Conf.IsShaped pairs := by
  obtain ⟨config, hload, -⟩ : ∃ config, load (fun _ => none) looseObject = .ok config ∧
      config.name = "" := exists_load_of_map (by decide +kernel)
  obtain ⟨-, before, o, after, pairs, htext, -, hlists, hshaped⟩ := hasShape_of_load hload
  exact ⟨config, hload, before, o, after, pairs, htext, hlists, hshaped⟩

/-- The array is loaded, and so is the object that is no text: neither is a JSON object. -/
theorem load_no_object :
    (∃ config, load (fun _ => none) valueArray = .ok config ∧ ¬Json.IsJson .object valueArray) ∧
      ∃ config, load (fun _ => none) textlessObject = .ok config ∧
        ¬Json.IsJson .object textlessObject := by
  constructor
  · obtain ⟨config, hload, -⟩ : ∃ config, load (fun _ => none) valueArray = .ok config ∧
        config.name = "" := exists_load_of_map (by decide +kernel)
    refine ⟨config, hload, ?_⟩
    rintro ⟨⟨before, o, after, htext, hsort⟩, -⟩
    have hskip := congrArg Json.skipSpace htext
    obtain ⟨b, more, hhead, hb⟩ := o.exists_head_sort after.1
    rw [o.skipSpace_text, hhead] at hskip
    have hbracket : (Json.skipSpace valueArray).head? = some (Json.ascii '[') := by decide +kernel
    rw [hskip, List.head?_cons] at hbracket
    rw [Option.some.inj hbracket, hsort] at hb
    exact absurd hb (by decide)
  · obtain ⟨config, hload, -⟩ : ∃ config, load (fun _ => none) textlessObject = .ok config ∧
        config.name = "" := exists_load_of_map (by decide +kernel)
    refine ⟨config, hload, ?_⟩
    rintro ⟨-, s, htext⟩
    have hnone : Bytes.text? textlessObject = none := by decide +kernel
    rw [Bytes.text?_eq_some_iff.2 htext] at hnone
    cases hnone

end Config

end NetDelegate
