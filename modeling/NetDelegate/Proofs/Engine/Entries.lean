/-
  NetDelegate/Proofs/Engine/Entries.lean
  ======================================
  **Entries reach the plugins unchanged.**  An entry is read as the members of its object, at any
  place of a text (`NetworkList.isReadBy_readEntry`).  So a list that is read has an entry for each
  item of the array, in order.  If the numbers of the text are integers that fit 64 bits, what a
  plugin is given for an entry stands for the members of the entry: the plugin reads there what
  the entry was found to be, its own name included.  In turn a list of such entries can be
  written from what the plugins are given.
-/
import NetDelegate.Proofs.Engine.Delegation
import NetDelegate.Proofs.Json.Acceptance
import NetDelegate.Proofs.Json.Compact

namespace NetDelegate

open Json (Blanks Outline)

namespace NetworkList

/-! ### Reading an entry -/

/-- The entry that a value is. -/
def entryOf? : Json → Option NetworkEntry
  | .object members => some ⟨members⟩
  | _ => none

theorem entryOf?_eq_some_iff {j : Json} {e : NetworkEntry} :
    entryOf? j = some e ↔ j = .object e.members := by
  cases j with
  | object members =>
    rw [entryOf?, Option.some.injEq, Json.object.injEq]
    exact ⟨fun h => by rw [← h], fun h => by rw [h]⟩
  | _ => simp [entryOf?]

/-- At a brace, an entry is read just as a value is. -/
theorem readValue_brace {depth : Nat} {input rest : Bytes}
    (h : Json.skipSpace input = Json.ascii '\x7b' :: rest) :
    Json.readValue depth input =
      (readEntry depth input >>= fun p => .ok (.object p.1.members, p.2)) := by
  rw [Json.readValue, readEntry, Json.readObject, h]
  cases depth with
  | zero => rfl
  | succ depth =>
    change (Json.pairs (Json.readValue depth) (rest.length + 1) true rest >>= fun p =>
        Except.ok (Json.object (Json.ofPairs p.1), p.2)) =
      ((Json.pairs (Json.readValue depth) (rest.length + 1) true rest >>= fun p =>
        Except.ok (NetworkEntry.mk (Json.ofPairs p.1), p.2)) >>= fun p =>
          Except.ok (Json.object p.1.members, p.2))
    cases Json.pairs (Json.readValue depth) (rest.length + 1) true rest with
    | error stop => rfl
    | ok p => rfl

/-- **An entry is read as the object that the text stands for.** -/
theorem isReadBy_readEntry (depth : Nat) (v : Outline .value) :
    v.IsReadBy (readEntry depth) ((v.within? depth).bind entryOf?) := by
  intro before rest hrest
  obtain ⟨b, more, hhead, hb⟩ := v.exists_head_sort rest
  have hinput : Json.skipSpace (before.1 ++ (v.text ++ rest)) = b :: more := by
    rw [v.skipSpace_text, hhead]
  by_cases hobject : v.sort = .object
  · rw [hobject] at hb
    rw [Json.eq_brace_of_sortOf? hb] at hinput
    have hvalue := v.isReadBy_readValue depth before hrest
    rw [readValue_brace hinput, Outline.toOption_bind_ok fun e : NetworkEntry =>
      Json.object e.members] at hvalue
    generalize (readEntry depth (before.1 ++ (v.text ++ rest))).toOption = x at hvalue ⊢
    cases hwithin : v.within? depth with
    | none =>
      rw [hwithin] at hvalue
      rw [Option.map_eq_none_iff.1 hvalue]
      rfl
    | some j =>
      rw [hwithin] at hvalue
      obtain ⟨⟨e, left⟩, rfl, hp⟩ := Option.map_eq_some_iff.1 hvalue
      obtain ⟨rfl, rfl⟩ := Prod.mk.inj hp
      rfl
  · have hbrace : b ≠ Json.ascii '\x7b' := by
      rintro rfl
      exact hobject (Option.some.inj hb).symm
    have hnone : (v.within? depth).bind entryOf? = none := by
      rw [Outline.within?]
      split
      · apply Outline.bind_value?_eq_none
        intro j hj
        cases j with
        | object members => exact absurd hj.symm hobject
        | _ => rfl
      · rfl
    rw [readEntry, Json.readObject, hinput, hnone, Json.toOption_bind]
    dsimp only
    rw [if_neg hbrace, Json.toOption_unexpected]
    rfl

/-! ### Reading a list -/

theorem parse_eq_ok_iff_readAll {text : Bytes} {list : NetworkList} :
    parse text = .ok list ↔ Json.readAll readEntries text = .ok list.entries := by
  obtain ⟨first, rest⟩ := list
  unfold parse
  split
  · next e h => simp [failWith, h]
  · next h => simp [failWith, h, entries]
  · next e es h => simp [h, entries]

/-- **A list is read if every item is an object,** and none is nested too deep. -/
theorem parse_eq_ok_iff (before : Blanks) (items : Outline .items) (after : Blanks)
    {list : NetworkList} :
    parse (before.1 ++ ((Outline.array items).text ++ after.1)) = .ok list ↔
      List.Forall₂ (fun v e => v.levels ≤ 126 ∧ v.value? = some (.object e.members)) items.inner
        list.entries := by
  have hentry (v : Outline .value) (e : NetworkEntry) :
      (v.within? 126).bind entryOf? = some e ↔
        v.levels ≤ 126 ∧ v.value? = some (.object e.members) := by
    rw [Option.bind_eq_some_iff, Outline.within?]
    simp only [entryOf?_eq_some_iff, exists_eq_right]
    split
    · next hlevels => simp [hlevels]
    · next hlevels => simp [hlevels]
  have hread : (readEntries (before.1 ++ ((Outline.array items).text ++ after.1))).toOption =
      (Outline.collect (fun v => (v.within? 126).bind entryOf?) items).map fun es => (es, after.1) :=
    Json.isReadBy_readArray (fun v _ => isReadBy_readEntry 126 v) before (Json.ends_of_blanks after)
  rw [parse_eq_ok_iff_readAll, ← Json.toOption_eq_some_iff, Json.toOption_readAll, hread,
    Option.bind_map]
  simp only [Function.comp_def, Json.skipSpace_of_blanks, if_true, Option.bind_fun_some,
    items.collect_eq_some_iff, hentry]

theorem goesAsFar_readEntry (depth : Nat) :
    Json.GoesAsFar (readEntry depth) (Json.skipLevels depth) := by
  intro input e rest h
  obtain ⟨⟨ps, left⟩, hobject, hlast⟩ := Json.exists_of_bind_eq_ok h
  cases hlast
  exact Json.goesAsFar_readObject Json.goesAsFar_readValue depth hobject

/-- A text that is read as a list is an array with items in it. -/
theorem exists_items_of_parse {text : Bytes} {list : NetworkList} (h : parse text = .ok list) :
    ∃ (before : Blanks) (items : Outline .items) (after : Blanks),
      text = before.1 ++ ((Outline.array items).text ++ after.1) := by
  rw [parse_eq_ok_iff_readAll] at h
  obtain ⟨before, o, after, rfl⟩ := Json.exists_outline_of_readAll (fun hread =>
    ⟨_, Json.goesAsFar_readArray goesAsFar_readEntry Json.maxDepth hread⟩) h
  rw [← Json.toOption_eq_some_iff, Json.toOption_readAll] at h
  obtain ⟨p, hp, hrest⟩ := Option.bind_eq_some_iff.1 h
  rw [Json.toOption_eq_some_iff] at hp
  have hsort := Json.sort_of_readArray_eq_ok hp
  cases o with
  | array items => exact ⟨before, items, after, rfl⟩
  | emptyArray blanks =>
    -- a list has an entry
    have hempty : readEntries (before.1 ++ ((Outline.emptyArray blanks).text ++ after.1)) =
        .ok ([], after.1) := by
      rw [readEntries, Json.readArray, Outline.skipSpace_text]
      simp only [Outline.text, List.cons_append, List.append_assoc, List.nil_append]
      exact Json.elements_close (Nat.succ_pos _) true blanks after.1
    rw [hempty] at hp
    cases hp
    simp [entries] at hrest
  | _ => cases hsort

/-! ### Entries that are kept -/

theorem exists_of_mem_right {α β : Type} {R : α → β → Prop} {as : List α} {bs : List β}
    (h : List.Forall₂ R as bs) : ∀ b ∈ bs, ∃ a ∈ as, R a b := by
  induction h with
  | nil => exact List.forall_mem_nil _
  | @cons a b as bs hab _ ih =>
    rw [List.forall_mem_cons]
    refine ⟨⟨a, List.mem_cons_self, hab⟩, ?_⟩
    intro b' hb'
    obtain ⟨a', ha', hab'⟩ := ih b' hb'
    exact ⟨a', List.mem_cons_of_mem a ha', hab'⟩

/-- The list of entries, written as plugins are given them. -/
def written (entries : List NetworkEntry) : Bytes :=
  Json.ascii '[' :: ([Json.ascii ','].intercalate (entries.map NetworkEntry.bytes) ++
    [Json.ascii ']'])

theorem exists_items_of_written {entries : List NetworkEntry} (hne : entries ≠ [])
    (h : ∀ e ∈ entries, (Json.object e.members).IsExact ∧
      (Json.object e.members).levels ≤ 126) :
    ∃ items : Outline .items, written entries = (Outline.array items).text ∧
      List.Forall₂ (fun v e => v.levels ≤ 126 ∧ v.value? = some (.object e.members)) items.inner
        entries := by
  let values := entries.map fun e => Json.object e.members
  have hvalues : ∀ j ∈ values, j.IsExact ∧ j.levels ≤ 126 := List.forall_mem_map.2 h
  have hnonempty : values ≠ [] := by simpa [values] using hne
  obtain ⟨items, htext, hvalue, hlevels⟩ :=
    Outline.exists_items_of_prints hnonempty fun j hj => (hvalues j hj).1.exists_outline
  have hshallow : items.levels ≤ 126 := by
    rw [hlevels, Json.itemLevels_le_iff]
    exact fun j hj => (hvalues j hj).2
  have hall : List.Forall₂ (fun v j => v.within? 126 = some j) items.inner values := by
    rw [← items.collect_eq_some_iff, Outline.collect_within?, Outline.within?, if_pos hshallow]
    exact hvalue
  refine ⟨items, ?_, ?_⟩
  · rw [Outline.text, ← htext, Utf8.encode_append, Json.encode_commaSeparated,
      Json.printItems_eq_map, List.map_map, List.map_map]
    rfl
  · rw [List.forall₂_map_right_iff] at hall
    refine hall.imp ?_
    intro v e hv
    rw [Outline.within?] at hv
    split at hv
    · next hlevels => exact ⟨hlevels, hv⟩
    · cases hv

end NetworkList

/-- What a plugin reads for an entry: the members of the entry with their values, in order, and
    the plugin's own name.  Written once more they are the same bytes. -/
structure NetworkEntry.IsKept (e : NetworkEntry) : Prop where
  parse_eq : Json.parse e.bytes = .ok (.object e.members)
  plugin_eq : ∀ {command : Command} {context : Context} {call : Call},
    Engine.IsCallFor command context e call → ∃ j, Json.parse call.config = .ok j ∧
      (j.member? "type").bind Json.text? = some call.plugin
  bytes_eq : ∀ {j : Json}, Json.parse e.bytes = .ok j → j.bytes = e.bytes

theorem NetworkEntry.isKept_of_isExact {e : NetworkEntry} (h : (Json.object e.members).IsExact)
    (hlevels : (Json.object e.members).levels ≤ Json.maxDepth) : e.IsKept := by
  have hparse : Json.parse e.bytes = .ok (.object e.members) := h.parse_bytes hlevels
  refine ⟨hparse, ?_, ?_⟩
  · intro command context call hcall
    refine ⟨.object e.members, by rw [hcall.config_eq, hparse], ?_⟩
    have hplugin := hcall.plugin_eq
    unfold plugin? at hplugin
    obtain ⟨j, hj, hplugin⟩ := Option.bind_eq_some_iff.1 hplugin
    obtain ⟨s, hs, hplugin⟩ := Option.bind_eq_some_iff.1 hplugin
    split at hplugin
    · cases hplugin
    · cases hplugin
      rw [Json.member?, hj]
      exact hs
  · intro j hj
    rw [hparse] at hj
    cases hj
    rfl

namespace NetworkList

/-- **Entries reach the plugins unchanged.**  A text that is read as a list is an array, whose
    items stand for the objects of the entries, one by one.  If its numbers are integer literals
    that fit 64 bits, each entry is kept in what its plugin is given, and no entry is nested more
    than 126 levels deep.  Every list of such entries is read from what their plugins are given. -/
theorem entries_unchanged :
    (∀ (text : Bytes) (list : NetworkList), parse text = .ok list →
      (∃ (before : Blanks) (items : Outline .items) (after : Blanks),
        text = before.1 ++ ((Outline.array items).text ++ after.1)) ∧
      ∀ (before : Blanks) (items : Outline .items) (after : Blanks),
        text = before.1 ++ ((Outline.array items).text ++ after.1) →
          List.Forall₂ (fun v e => v.value? = some (.object e.members)) items.inner list.entries ∧
          ((∀ n ∈ items.numbers, Json.IsInteger n.1 n.2) → ∀ e ∈ list.entries,
            e.IsKept ∧ (Json.object e.members).IsExact ∧
              (Json.object e.members).levels ≤ 126)) ∧
      ∀ (first : NetworkEntry) (rest : List NetworkEntry),
        (∀ e ∈ first :: rest, (Json.object e.members).IsExact ∧
          (Json.object e.members).levels ≤ 126) →
        parse (written (first :: rest)) = .ok ⟨first, rest⟩ := by
  constructor
  · intro text list h
    refine ⟨exists_items_of_parse h, ?_⟩
    rintro before items after rfl
    have hitems := (parse_eq_ok_iff before items after).1 h
    refine ⟨hitems.imp fun v e hv => hv.2, ?_⟩
    intro hnumbers e he
    obtain ⟨v, hv, hlevels, hvalue⟩ := exists_of_mem_right hitems e he
    obtain ⟨hexact, hshallow⟩ := v.isExact_of_value? hvalue fun n hn =>
      hnumbers n (items.numbers_of_mem_inner v hv n hn)
    have hentry := Nat.le_trans hshallow hlevels
    exact ⟨NetworkEntry.isKept_of_isExact hexact (Nat.le_succ_of_le hentry), hexact, hentry⟩
  · intro first rest h
    obtain ⟨items, htext, hall⟩ := exists_items_of_written (List.cons_ne_nil first rest) h
    have hparse : parse (Json.noBlanks.1 ++ ((Outline.array items).text ++ Json.noBlanks.1)) =
        .ok ⟨first, rest⟩ := (parse_eq_ok_iff Json.noBlanks items Json.noBlanks).2 hall
    rw [htext, ← hparse]
    simp only [Json.noBlanks, List.nil_append, List.append_nil]

theorem isNumeral_one : Json.IsNumeral [Json.ascii '1'] :=
  .mk (.digits (by decide) (by decide) (List.forall_mem_nil _)) .absent .absent

/-- Two entries with several members each, one of them a negative number, and a blank between. -/
def chainItems : Outline .items :=
  .item Json.noBlanks
    (.object (.member (Json.plainName "type" (by decide)) Json.noBlanks
      (.string (Json.plainMarks "bridge" (by decide))) Json.noBlanks
      (.lastMember (Json.plainName "mtu" (by decide)) Json.noBlanks
        (.number true [Json.ascii '1'] isNumeral_one) Json.noBlanks)))
    Json.noBlanks
    (.lastItem ⟨[32], List.forall_mem_singleton.2 rfl⟩
      (.object (.member (Json.plainName "up" (by decide)) Json.noBlanks
        (.bool true) Json.noBlanks
        (.lastMember (Json.plainName "type" (by decide)) Json.noBlanks
          (.string (Json.plainMarks "loopback" (by decide))) Json.noBlanks)))
      Json.noBlanks)

/-- What they are read as. -/
def chainList : NetworkList where
  first := ⟨[("type", .string "bridge"), ("mtu", .number (.negative 1))]⟩
  rest := [⟨[("up", .bool true), ("type", .string "loopback")]⟩]

/-- The entries keep their order, their plugins and their members. -/
theorem entries_unchanged_of_negative :
    let text := utf8 ("[\x7b\"type\":\"bridge\",\"mtu\":-1\x7d, " ++
      "\x7b\"up\":true,\"type\":\"loopback\"\x7d]")
    parse text = .ok chainList ∧ (∀ e ∈ chainList.entries, e.IsKept) ∧
      chainList.entries.map (·.plugin?) = [some "bridge", some "loopback"] ∧
      parse (written chainList.entries) = .ok chainList := by
  intro text
  have htext : text = Json.noBlanks.1 ++ ((Outline.array chainItems).text ++ Json.noBlanks.1) := by
    decide +kernel
  have hparse : parse text = .ok chainList := by
    rw [htext, parse_eq_ok_iff]
    refine .cons ⟨by decide, ?_⟩ (.cons ⟨by decide, ?_⟩ .nil)
    · simp only [Outline.value?, Outline.pair?, Json.plainName, Json.textOf?_plainMarks]
      rfl
    · simp only [Outline.value?, Outline.pair?, Json.plainName, Json.textOf?_plainMarks]
      rfl
  have hnumbers : ∀ n ∈ chainItems.numbers, Json.IsInteger n.1 n.2 := by
    intro n hn
    obtain rfl : n = (true, [Json.ascii '1']) := List.mem_singleton.1 hn
    exact ⟨by simp [Json.AreDigits, Json.isDigit, Json.ascii], by decide, by decide⟩
  have hkept := ((entries_unchanged.1 text chainList hparse).2 Json.noBlanks chainItems
    Json.noBlanks htext).2 hnumbers
  exact ⟨hparse, fun e he => (hkept e he).1, by decide +kernel,
    entries_unchanged.2 chainList.first chainList.rest fun e he => (hkept e he).2⟩

end NetworkList

end NetDelegate
