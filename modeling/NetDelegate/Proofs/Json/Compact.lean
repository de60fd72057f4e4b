/-
  NetDelegate/Proofs/Json/Compact.lean
  ====================================
  **A value that is printed is read back.**  A value is exact if its numbers are integers that fit
  64 bits and no object has a name twice (`IsExact`).  The compact text of an exact value is a text
  of the grammar that stands for the value (`IsExact.exists_outline`), so that reading it gives the
  value, unless it is nested too deep (`IsExact.parse_bytes`).
-/
import NetDelegate.Proofs.Json.Integer
import NetDelegate.Proofs.Json.Printing
import NetDelegate.Proofs.Json.Typed

namespace NetDelegate.Json

/-! ### Exact values -/

/-- No number is a float or too long for 64 bits, and no object has a name twice. -/
inductive IsExact : Json → Prop
  | null : IsExact null
  | bool (b : Bool) : IsExact (bool b)
  | number {n : Number} (h : n.IsExact) : IsExact (number n)
  | string (s : String) : IsExact (string s)
  | array {items : List Json} (hitems : ∀ v ∈ items, IsExact v) : IsExact (array items)
  | object {members : List (String × Json)} (hnames : (members.map (·.1)).Nodup)
      (hmembers : ∀ p ∈ members, IsExact p.2) : IsExact (object members)

mutual

/-- The number of arrays and objects that are inside each other. -/
def levels : Json → Nat
  | null | bool _ | number _ | string _ => 0
  | array items => itemLevels items + 1
  | object members => memberLevels members + 1

def itemLevels : List Json → Nat
  | [] => 0
  | v :: vs => max (levels v) (itemLevels vs)

def memberLevels : List (String × Json) → Nat
  | [] => 0
  | (_, v) :: ms => max (levels v) (memberLevels ms)

end

theorem itemLevels_le_iff {items : List Json} {k : Nat} :
    itemLevels items ≤ k ↔ ∀ v ∈ items, v.levels ≤ k := by
  induction items with
  | nil => simp [itemLevels]
  | cons v items ih => rw [itemLevels, Nat.max_le, ih, List.forall_mem_cons]

theorem memberLevels_le_iff {members : List (String × Json)} {k : Nat} :
    memberLevels members ≤ k ↔ ∀ p ∈ members, p.2.levels ≤ k := by
  induction members with
  | nil => simp [memberLevels]
  | cons p members ih => rw [memberLevels, Nat.max_le, ih, List.forall_mem_cons]

/-! ### Members with different names -/

section
variable {α : Type}

theorem setMember_of_notMem {name : String} (value : α) {members : List (String × α)}
    (h : name ∉ members.map (·.1)) : setMember name value members = members ++ [(name, value)] := by
  induction members with
  | nil => rfl
  | cons p members ih =>
    rw [List.map_cons, List.mem_cons, not_or] at h
    rw [setMember, if_neg (Ne.symm h.1), ih h.2]
    rfl

/-- Members with different names are kept as they are. -/
theorem ofPairs_of_nodup {members : List (String × α)} (h : (members.map (·.1)).Nodup) :
    ofPairs members = members := by
  have hall : ∀ (later earlier : List (String × α)),
      ((earlier ++ later).map (·.1)).Nodup →
        later.foldl (fun members p => setMember p.1 p.2 members) earlier = earlier ++ later := by
    intro later
    induction later with
    | nil =>
      intro earlier _
      exact (List.append_nil earlier).symm
    | cons p later ih =>
      intro earlier hnames
      have hnew : p.1 ∉ earlier.map (·.1) := by
        rw [List.map_append, List.nodup_append] at hnames
        intro hp
        exact hnames.2.2 _ hp _ (List.mem_map_of_mem List.mem_cons_self) rfl
      rw [List.foldl_cons, setMember_of_notMem _ hnew, ih, List.append_assoc]
      · rfl
      · rw [List.append_assoc]
        exact hnames
  exact hall members [] h

theorem mem_setMember {name : String} {value : α} {members : List (String × α)}
    {p : String × α} (h : p ∈ setMember name value members) : p = (name, value) ∨ p ∈ members := by
  induction members with
  | nil => exact .inl (List.mem_singleton.1 h)
  | cons q members ih =>
    rw [setMember] at h
    split at h
    · next hq =>
      rcases List.mem_cons.1 h with rfl | hmem
      · exact .inl (by rw [hq])
      · exact .inr (List.mem_cons_of_mem q hmem)
    · rcases List.mem_cons.1 h with rfl | hmem
      · exact .inr List.mem_cons_self
      · exact (ih hmem).imp_right (List.mem_cons_of_mem q)

theorem nodup_setMember (name : String) (value : α) {members : List (String × α)}
    (h : (members.map (·.1)).Nodup) : ((setMember name value members).map (·.1)).Nodup := by
  induction members with
  | nil => simp [setMember]
  | cons q members ih =>
    rw [List.map_cons, List.nodup_cons] at h
    rw [setMember]
    split
    · rw [List.map_cons, List.nodup_cons]
      exact h
    · next hq =>
      rw [List.map_cons, List.nodup_cons]
      refine ⟨?_, ih h.2⟩
      intro hmem
      obtain ⟨p, hp, hsame⟩ := List.mem_map.1 hmem
      rcases mem_setMember hp with rfl | hp
      · exact hq hsame.symm
      · exact h.1 (hsame ▸ List.mem_map_of_mem hp)

/-- The members that pairs give have different names, and are among the pairs. -/
theorem nodup_ofPairs (pairs : List (String × α)) :
    ((ofPairs pairs).map (·.1)).Nodup ∧ ∀ p ∈ ofPairs pairs, p ∈ pairs := by
  have hall : ∀ (later earlier : List (String × α)), (earlier.map (·.1)).Nodup →
      ((later.foldl (fun members p => setMember p.1 p.2 members) earlier).map (·.1)).Nodup ∧
        ∀ p ∈ later.foldl (fun members p => setMember p.1 p.2 members) earlier,
          p ∈ earlier ∨ p ∈ later := by
    intro later
    induction later with
    | nil =>
      intro earlier hnames
      exact ⟨hnames, fun p hp => .inl hp⟩
    | cons q later ih =>
      intro earlier hnames
      obtain ⟨hafter, hmem⟩ := ih _ (nodup_setMember q.1 q.2 hnames)
      refine ⟨hafter, ?_⟩
      intro p hp
      rcases hmem p hp with hp | hp
      · rcases mem_setMember hp with rfl | hp
        · exact .inr List.mem_cons_self
        · exact .inl hp
      · exact .inr (List.mem_cons_of_mem q hp)
  obtain ⟨hnames, hmem⟩ := hall pairs [] List.nodup_nil
  refine ⟨hnames, ?_⟩
  intro p hp
  rcases hmem p hp with hp | hp
  · cases hp
  · exact hp

end

/-! ### Values of texts -/

namespace Outline

theorem numbers_of_mem_inner {kind : Kind} (o : Outline kind) :
    ∀ v ∈ o.inner, ∀ n ∈ v.numbers, n ∈ o.numbers := by
  induction o with
  | lastItem before v after => simp [inner, numbers]
  | item before v after rest _ ih =>
    rw [inner, List.forall_mem_cons]
    refine ⟨fun n hn => List.mem_append_left _ hn, ?_⟩
    intro w hw n hn
    exact List.mem_append_right _ (ih w hw n hn)
  | lastMember name before v after => simp [inner, numbers]
  | member name before v after rest _ ih =>
    rw [inner, List.forall_mem_cons]
    refine ⟨fun n hn => List.mem_append_left _ hn, ?_⟩
    intro w hw n hn
    exact List.mem_append_right _ (ih w hw n hn)
  | _ => simp [inner]

theorem exists_of_mem_items : (items : Outline .items) → {vs : List Json} →
    items.value? = some vs → ∀ j ∈ vs, ∃ v ∈ items.inner, v.value? = some j
  | lastItem before v after, vs, h => by
    obtain ⟨j, hj, rfl⟩ := Option.map_eq_some_iff.1 h
    simp [inner, hj]
  | item before v after rest, vs, h => by
    obtain ⟨j, hj, h⟩ := Option.bind_eq_some_iff.1 h
    obtain ⟨js, hjs, rfl⟩ := Option.map_eq_some_iff.1 h
    rw [List.forall_mem_cons]
    refine ⟨⟨v, List.mem_cons_self, hj⟩, ?_⟩
    intro i hi
    obtain ⟨w, hw, hvalue⟩ := rest.exists_of_mem_items hjs i hi
    exact ⟨w, List.mem_cons_of_mem v hw, hvalue⟩

theorem exists_of_mem_members : (members : Outline .members) → {ps : List (String × Json)} →
    members.value? = some ps → ∀ p ∈ ps, ∃ v ∈ members.inner, v.value? = some p.2
  | lastMember name before v after, ps, h => by
    obtain ⟨p, hp, rfl⟩ := Option.map_eq_some_iff.1 h
    simp [inner, (pair?_eq_some_iff.1 hp).2]
  | member name before v after rest, ps, h => by
    obtain ⟨p, hp, h⟩ := Option.bind_eq_some_iff.1 h
    obtain ⟨ps, hps, rfl⟩ := Option.map_eq_some_iff.1 h
    rw [List.forall_mem_cons]
    refine ⟨⟨v, List.mem_cons_self, (pair?_eq_some_iff.1 hp).2⟩, ?_⟩
    intro q hq
    obtain ⟨w, hw, hvalue⟩ := rest.exists_of_mem_members hps q hq
    exact ⟨w, List.mem_cons_of_mem v hw, hvalue⟩

/-- **A text whose numbers are integers that fit 64 bits stands for an exact value,** which is
    nested no deeper than the text. -/
theorem isExact_of_value? (o : Outline .value) {j : Json} (h : o.value? = some j)
    (hnumbers : ∀ n ∈ o.numbers, IsInteger n.1 n.2) : j.IsExact ∧ j.levels ≤ o.levels := by
  induction o using rec_inner generalizing j with
  | null =>
    cases h
    exact ⟨.null, Nat.le_refl _⟩
  | bool b =>
    cases h
    exact ⟨.bool b, Nat.le_refl _⟩
  | number negative digits hdigits =>
    have hinteger := hnumbers (negative, digits) (List.mem_singleton_self _)
    rw [value?, hinteger.numeralValue?_eq hdigits] at h
    cases h
    exact ⟨.number hinteger.isExact, Nat.le_refl _⟩
  | string marks =>
    obtain ⟨s, -, rfl⟩ := Option.map_eq_some_iff.1 h
    exact ⟨.string s, Nat.le_refl _⟩
  | emptyArray blanks =>
    cases h
    exact ⟨.array (List.forall_mem_nil _), Nat.le_refl _⟩
  | array items ih =>
    obtain ⟨vs, hvs, rfl⟩ := Option.map_eq_some_iff.1 h
    have hinside : ∀ i ∈ vs, i.IsExact ∧ i.levels ≤ items.levels := by
      intro i hi
      obtain ⟨v, hv, hvalue⟩ := items.exists_of_mem_items hvs i hi
      obtain ⟨hexact, hlevels⟩ := ih v hv hvalue fun n hn =>
        hnumbers n (numbers_of_mem_inner items v hv n hn)
      exact ⟨hexact, Nat.le_trans hlevels (levels_le_of_mem_inner items v hv)⟩
    refine ⟨.array fun i hi => (hinside i hi).1, ?_⟩
    exact Nat.succ_le_succ (itemLevels_le_iff.2 fun i hi => (hinside i hi).2)
  | emptyObject blanks =>
    cases h
    exact ⟨.object List.nodup_nil (List.forall_mem_nil _), Nat.le_refl _⟩
  | object members ih =>
    obtain ⟨ps, hps, rfl⟩ := Option.map_eq_some_iff.1 h
    obtain ⟨hnames, hmem⟩ := nodup_ofPairs ps
    have hinside : ∀ p ∈ ofPairs ps, p.2.IsExact ∧ p.2.levels ≤ members.levels := by
      intro p hp
      obtain ⟨v, hv, hvalue⟩ := members.exists_of_mem_members hps p (hmem p hp)
      obtain ⟨hexact, hlevels⟩ := ih v hv hvalue fun n hn =>
        hnumbers n (numbers_of_mem_inner members v hv n hn)
      exact ⟨hexact, Nat.le_trans hlevels (levels_le_of_mem_inner members v hv)⟩
    refine ⟨.object hnames fun p hp => (hinside p hp).1, ?_⟩
    exact Nat.succ_le_succ (memberLevels_le_iff.2 fun p hp => (hinside p hp).2)

end Outline

/-! ### Outlines of printed values -/

theorem printItems_eq_map (items : List Json) : printItems items = items.map print := by
  induction items with
  | nil => rfl
  | cons v items ih => rw [printItems, ih, List.map_cons]

theorem encode_commaSeparated (ts : List (List Char)) :
    Utf8.encode (commaSeparated ts) = [ascii ','].intercalate (ts.map Utf8.encode) := by
  induction ts with
  | nil => rfl
  | cons t ts ih =>
    cases ts with
    | nil => rw [commaSeparated, List.map_singleton, List.intercalate_singleton]
    | cons u ts =>
      have hne : (u :: ts).map Utf8.encode ≠ [] := List.cons_ne_nil _ _
      change _ = [ascii ','].intercalate (Utf8.encode t :: (u :: ts).map Utf8.encode)
      rw [commaSeparated, Utf8.encode_append, Utf8.encode_cons, ih,
        List.intercalate_cons_of_ne_nil hne, List.append_assoc]
      · rfl
      · exact List.cons_ne_nil u ts

/-- The outline is the compact text of the value. -/
structure Outline.Prints (o : Outline .value) (v : Json) : Prop where
  text : v.bytes = o.text
  value : o.value? = some v
  levels : o.levels = v.levels

theorem encode_ascii {c : Char} (h : c.toNat < 0x80) : Utf8.encodeChar c = [ascii c] := if_pos h

namespace Outline

/-- Items without blanks, one at least. -/
theorem exists_items_of_prints {items : List Json} (hne : items ≠ [])
    (h : ∀ v ∈ items, ∃ o : Outline .value, o.Prints v) :
    ∃ o : Outline .items,
      Utf8.encode (commaSeparated (printItems items) ++ [']']) = o.text ∧
        o.value? = some items ∧ o.levels = itemLevels items := by
  induction items with
  | nil => exact absurd rfl hne
  | cons v vs ih =>
    obtain ⟨⟨o, ho⟩, hvs⟩ := List.forall_mem_cons.1 h
    have htext : Utf8.encode v.print = o.text := ho.text
    cases vs with
    | nil =>
      refine ⟨.lastItem noBlanks o noBlanks, ?_, ?_, ?_⟩
      · rw [printItems, printItems, commaSeparated, Utf8.encode_append, htext]
        rfl
      · simp [value?, ho.value]
      · simp [Outline.levels, itemLevels, ho.levels]
    | cons w ws =>
      obtain ⟨rest, hrest, hvalue, hlevels⟩ := ih (List.cons_ne_nil w ws) hvs
      refine ⟨.item noBlanks o noBlanks rest, ?_, ?_, ?_⟩
      · rw [printItems, printItems, commaSeparated, List.append_assoc, Utf8.encode_append,
          List.cons_append, Utf8.encode_cons, htext, encode_ascii (by decide)]
        · rw [printItems] at hrest
          rw [hrest]
          rfl
        · exact List.cons_ne_nil _ _
      · simp [value?, ho.value, hvalue]
      · rw [Outline.levels, itemLevels, ho.levels, hlevels]

/-- A member that is printed: its name, the colon and its value. -/
theorem exists_name_of_text (name : String) {v : Json} {o : Outline .value} (h : v.bytes = o.text) :
    ∃ n : Name, Utf8.encode (quoted name ++ ':' :: v.print) = n.text ++ o.text ∧
      textOf? n.marks = some name := by
  obtain ⟨marks, htext, hmarks⟩ := exists_marks_quoted name
  have hvalue : Utf8.encode v.print = o.text := h
  refine ⟨⟨noBlanks, marks, noBlanks⟩, ?_, hmarks⟩
  rw [Utf8.encode_append, Utf8.encode_cons, htext, hvalue, encode_ascii (by decide)]
  simp only [text, Name.text, noBlanks, List.nil_append, List.cons_append, List.append_assoc]

/-- Members without blanks, one at least: the values are written as outlines that have what `P`
    says. -/
theorem exists_members_of_texts {P : String × Json → Outline .value → Prop}
    {members : List (String × Json)} (hne : members ≠ [])
    (h : ∀ p ∈ members, ∃ o : Outline .value, p.2.bytes = o.text ∧ P p o) :
    ∃ o : Outline .members,
      Utf8.encode (commaSeparated (printMembers members) ++ ['\x7d']) = o.text ∧
        List.Forall₂ (fun entry p => textOf? entry.1 = some p.1 ∧ P p entry.2) o.entries
          members := by
  induction members with
  | nil => exact absurd rfl hne
  | cons p ps ih =>
    obtain ⟨name, v⟩ := p
    obtain ⟨⟨o, ho, hP⟩, hps⟩ := List.forall_mem_cons.1 h
    obtain ⟨n, htext, hname⟩ := exists_name_of_text name ho
    cases ps with
    | nil =>
      refine ⟨.lastMember n noBlanks o noBlanks, ?_, .cons ⟨hname, hP⟩ .nil⟩
      rw [printMembers, printMembers, commaSeparated, Utf8.encode_append, htext, List.append_assoc]
      rfl
    | cons q qs =>
      obtain ⟨rest, hrest, hentries⟩ := ih (List.cons_ne_nil q qs) hps
      refine ⟨.member n noBlanks o noBlanks rest, ?_, .cons ⟨hname, hP⟩ hentries⟩
      rw [printMembers, printMembers, commaSeparated, List.append_assoc, Utf8.encode_append,
        List.cons_append, Utf8.encode_cons, htext, encode_ascii (by decide), List.append_assoc]
      · rw [printMembers] at hrest
        rw [hrest]
        rfl
      · exact List.cons_ne_nil _ _

/-- A printed object is the text of its members, the values of which are written as outlines that
    have what `P` says. -/
theorem exists_object_of_texts {P : String × Json → Outline .value → Prop}
    {members : List (String × Json)} (hne : members ≠ [])
    (h : ∀ p ∈ members, ∃ o : Outline .value, p.2.bytes = o.text ∧ P p o) :
    ∃ o : Outline .members, bytes (.object members) = (object o).text ∧
      List.Forall₂ (fun entry p => textOf? entry.1 = some p.1 ∧ P p entry.2) o.entries
        members := by
  obtain ⟨o, htext, hentries⟩ := exists_members_of_texts hne h
  refine ⟨o, ?_, hentries⟩
  rw [bytes, print, Utf8.encode_cons, htext]
  rfl

theorem levels_eq_of_entries : (o : Outline .members) → {members : List (String × Json)} →
    List.Forall₂ (fun entry p => entry.2.levels = p.2.levels) o.entries members →
      o.levels = memberLevels members
  | lastMember name before v after, members, h => by
    cases h with
    | cons hlevels hnone =>
      cases hnone
      simp [Outline.levels, memberLevels, hlevels]
  | member name before v after rest, members, h => by
    cases h with
    | cons hlevels hrest =>
      rw [Outline.levels, memberLevels, rest.levels_eq_of_entries hrest, hlevels]

/-- The outline of a printed object is the one of its members. -/
theorem exists_object_of_prints {members : List (String × Json)} (hne : members ≠ [])
    (h : ∀ p ∈ members, ∃ o : Outline .value, o.Prints p.2) :
    ∃ o : Outline .members, bytes (.object members) = (object o).text ∧
      o.value? = some members ∧ o.levels = memberLevels members := by
  obtain ⟨o, htext, hentries⟩ := exists_object_of_texts
    (P := fun p o => o.value? = some p.2 ∧ o.levels = p.2.levels) hne fun p hp => by
      obtain ⟨o, ho⟩ := h p hp
      exact ⟨o, ho.text, ho.value, ho.levels⟩
  refine ⟨o, htext, value?_members_eq_some_iff.2 ?_, o.levels_eq_of_entries ?_⟩
  · exact hentries.imp fun _ _ hentry => ⟨hentry.1, hentry.2.1⟩
  · exact hentries.imp fun _ _ hentry => hentry.2.2

end Outline

/-- **The compact text of an exact value stands for the value.** -/
theorem IsExact.exists_outline {v : Json} (h : v.IsExact) : ∃ o : Outline .value, o.Prints v := by
  induction h with
  | null => exact ⟨.null, rfl, rfl, rfl⟩
  | bool b =>
    refine ⟨.bool b, ?_, rfl, rfl⟩
    cases b with
    | true => rfl
    | false => rfl
  | @number n hn =>
    obtain ⟨negative, digits, hdigits, hvalue, htext⟩ := hn.exists_numeral
    refine ⟨.number negative digits hdigits, ?_, ?_, rfl⟩
    · rw [bytes, print, htext]
      cases negative with
      | true => rfl
      | false => rfl
    · rw [Outline.value?, hvalue]
      rfl
  | string s =>
    obtain ⟨marks, htext, hmarks⟩ := exists_marks_quoted s
    exact ⟨.string marks, htext, by rw [Outline.value?, hmarks]; rfl, rfl⟩
  | @array items hitems ih =>
    by_cases hne : items = []
    · subst hne
      exact ⟨.emptyArray noBlanks, rfl, rfl, rfl⟩
    · obtain ⟨o, htext, hvalue, hlevels⟩ := Outline.exists_items_of_prints hne ih
      refine ⟨.array o, ?_, ?_, ?_⟩
      · rw [bytes, print, Utf8.encode_cons, htext]
        rfl
      · rw [Outline.value?, hvalue]
        rfl
      · rw [Outline.levels, levels, hlevels]
  | @object members hnames hmembers ih =>
    by_cases hne : members = []
    · subst hne
      exact ⟨.emptyObject noBlanks, rfl, rfl, rfl⟩
    · obtain ⟨o, htext, hvalue, hlevels⟩ := Outline.exists_object_of_prints hne ih
      refine ⟨.object o, htext, ?_, ?_⟩
      · rw [Outline.value?, hvalue, Option.map_some, ofPairs_of_nodup hnames]
      · rw [Outline.levels, levels, hlevels]

/-- **A printed value is read back,** unless it is nested too deep. -/
theorem IsExact.parse_bytes {v : Json} (h : v.IsExact) (hlevels : v.levels ≤ maxDepth) :
    parse v.bytes = .ok v := by
  obtain ⟨o, ho⟩ := h.exists_outline
  have hparse := toOption_parse noBlanks o noBlanks
  rw [Outline.within?, ho.levels, if_pos hlevels, ho.value, toOption_eq_some_iff] at hparse
  rw [ho.text, ← hparse]
  simp only [noBlanks, List.nil_append, List.append_nil]

/-- **A record is read from a printed object** as from its members, with blanks around it. -/
theorem Record.toOption_parse_bytes {σ : Type} {R : Record σ} {depth : Nat}
    {m : String → σ → Json → Option σ} (hdepth : maxDepth = depth + 1)
    (hread : R.ReadsFields depth m) (before after : Blanks) {members : List (String × Json)}
    (hne : members ≠ []) (h : ∀ p ∈ members, p.2.IsExact) :
    (R.parse (before.1 ++ (bytes (.object members) ++ after.1))).toOption =
      (members.foldlM (R.takeValue? m) R.initial).bind R.finish? := by
  obtain ⟨o, htext, hvalue, -⟩ :=
    Outline.exists_object_of_prints hne fun p hp => (h p hp).exists_outline
  rw [htext, toOption_parse_object hdepth hread before after hvalue]

end NetDelegate.Json
