/-
  NetDelegate/Proofs/Json/Reading.lean
  ====================================
  **The reader comes to the value of an outline,** if there is one and the nesting is not too deep
  (`isReadBy_readValue`, `toOption_parse`).  Arrays and objects are treated for any reader of the
  values inside, as the reader itself has them.
-/
import NetDelegate.Proofs.Json.Scan

namespace NetDelegate.Json

/-! ### Steps of the readers of arrays and objects -/

section
variable {α : Type} (item : Bytes → Except Stop (α × Bytes))

/-- Reads an item and what is left of the array behind it. -/
def elementsFrom (steps : Nat) (input : Bytes) : Except Stop (List α × Bytes) := do
  let (v, rest) ← item input
  let (vs, rest) ← elements item steps false rest
  .ok (v :: vs, rest)

/-- Reads a member after the quote of its name, and what is left of the object behind it. -/
def pairsFrom (steps : Nat) (input : Bytes) : Except Stop (List (String × α) × Bytes) := do
  let (name, rest) ← stringBody input
  let rest ← colon rest
  let (v, rest) ← item rest
  let (vs, rest) ← pairs item steps false rest
  .ok ((name, v) :: vs, rest)

theorem toOption_elementsFrom (steps : Nat) (input : Bytes) :
    (elementsFrom item steps input).toOption =
      (item input).toOption.bind fun p =>
        (elements item steps false p.2).toOption.map fun q => (p.1 :: q.1, q.2) := by
  rw [elementsFrom, toOption_bind]
  congr 1
  funext p
  rw [toOption_bind]
  cases elements item steps false p.2 with
  | error stop => rfl
  | ok q => rfl

theorem toOption_pairsFrom (name : Name) (steps : Nat) (rest : Bytes) :
    (pairsFrom item steps
        (spelled name.marks ++ ascii '"' :: (name.after.1 ++ ascii ':' :: rest))).toOption =
      (textOf? name.marks).bind fun s =>
        (item rest).toOption.bind fun p =>
          (pairs item steps false p.2).toOption.map fun q => ((s, p.1) :: q.1, q.2) := by
  rw [pairsFrom, toOption_bind, toOption_stringBody]
  cases textOf? name.marks with
  | none => rfl
  | some s =>
    simp only [Option.map_some, Option.bind_some, colon_append]
    change (item rest >>= fun p => pairs item steps false p.2 >>= _).toOption = _
    rw [toOption_bind]
    congr 1
    funext p
    rw [toOption_bind]
    cases pairs item steps false p.2 with
    | error stop => rfl
    | ok q => rfl

variable {item}

theorem elements_close {steps : Nat} (hsteps : 0 < steps) (first : Bool) (blanks : Blanks)
    (rest : Bytes) :
    elements item steps first (blanks.1 ++ ascii ']' :: rest) = .ok ([], rest) := by
  obtain ⟨steps, rfl⟩ := Nat.exists_eq_succ_of_ne_zero (Nat.ne_of_gt hsteps)
  rw [elements, skipSpace_blanks_cons blanks (by decide)]
  rfl

theorem pairs_close {steps : Nat} (hsteps : 0 < steps) (first : Bool) (blanks : Blanks)
    (rest : Bytes) :
    pairs item steps first (blanks.1 ++ ascii '\x7d' :: rest) = .ok ([], rest) := by
  obtain ⟨steps, rfl⟩ := Nat.exists_eq_succ_of_ne_zero (Nat.ne_of_gt hsteps)
  rw [pairs, skipSpace_blanks_cons blanks (by decide)]
  rfl

theorem elements_next {input rest : Bytes} {b : UInt8} (hinput : skipSpace input = b :: rest)
    (hb : b ≠ ascii ']') (steps : Nat) (first : Bool) :
    elements item (steps + 1) first input =
      (nextItem first (b :: rest) >>= elementsFrom item steps) := by
  rw [elements, hinput]
  exact if_neg hb

theorem pairs_next {input rest : Bytes} {b : UInt8} (hinput : skipSpace input = b :: rest)
    (hb : b ≠ ascii '\x7d') (steps : Nat) (first : Bool) :
    pairs item (steps + 1) first input =
      (nextName first (b :: rest) >>= pairsFrom item steps) := by
  rw [pairs, hinput]
  exact if_neg hb

end

/-- After a comma comes the next item. -/
theorem nextItem_comma {input rest : Bytes} {b : UInt8} (h : skipSpace input = b :: rest)
    (hb : b ≠ ascii ']') : nextItem false (ascii ',' :: input) = .ok (b :: rest) := by
  simp only [nextItem, h, Bool.false_eq_true, if_false, if_true, if_neg hb]

theorem nextName_comma {input rest : Bytes} (h : skipSpace input = ascii '"' :: rest) :
    nextName false (ascii ',' :: input) = .ok rest := by
  simp only [nextName, h, Bool.false_eq_true, if_false, if_true]

/-! ### What is read -/

namespace Outline

/-- A reader comes to `m` at this value, with blanks before it. -/
def IsReadBy {α : Type} (item : Bytes → Except Stop (α × Bytes)) (m : Option α)
    (v : Outline .value) : Prop :=
  ∀ (before : Blanks) {rest : Bytes}, Ends rest →
    (item (before.1 ++ (v.text ++ rest))).toOption = m.map fun a => (a, rest)

/-- Without blanks before it. -/
theorem IsReadBy.bare {α : Type} {item : Bytes → Except Stop (α × Bytes)} {m : Option α}
    {v : Outline .value} (h : v.IsReadBy item m) {rest : Bytes} (hrest : Ends rest) :
    (item (v.text ++ rest)).toOption = m.map fun a => (a, rest) :=
  h noBlanks hrest

section
variable {α : Type} (m : Outline .value → Option α)

/-- What items come to, if all of them come to something. -/
def collect : Outline .items → Option (List α)
  | lastItem _ v _ => (m v).map fun a => [a]
  | item _ v _ rest => (m v).bind fun a => (collect rest).map fun as => a :: as

/-- What members come to, if all names are texts and all values come to something. -/
def collectMembers : Outline .members → Option (List (String × α))
  | lastMember name _ v _ => (pair? name (m v)).map fun p => [p]
  | member name _ v _ rest =>
    (pair? name (m v)).bind fun p => (collectMembers rest).map fun ps => p :: ps

variable {m} {reader : Bytes → Except Stop (α × Bytes)}

theorem read_items : (items : Outline .items) →
    (∀ v ∈ items.inner, v.IsReadBy reader (m v)) →
    ∀ {steps : Nat}, items.text.length ≤ steps → ∀ rest,
      (elementsFrom reader steps (skipSpace (items.text ++ rest))).toOption =
        (collect m items).map fun as => (as, rest)
  | lastItem before v after, hread, steps, hsteps, rest => by
    have hpos : 0 < steps := by
      simp only [text, List.length_append, List.length_singleton] at hsteps
      omega
    have hv := (hread v (List.mem_singleton_self v)).bare
      (ends_blanks after (b := ascii ']') (by decide) rest)
    simp only [text, List.append_assoc, List.singleton_append, v.skipSpace_text]
    rw [toOption_elementsFrom, hv, collect]
    cases m v with
    | none => rfl
    | some a =>
      simp only [Option.map_some, Option.bind_some, elements_close hpos]
      rfl
  | item before v after more, hread, steps, hsteps, rest => by
    simp only [text, List.length_append, List.length_cons] at hsteps
    obtain ⟨steps, rfl⟩ : ∃ k, steps = k + 1 := ⟨steps - 1, by omega⟩
    have hv := (hread v List.mem_cons_self).bare
      (ends_blanks after (b := ascii ',') (by decide) (more.text ++ rest))
    have hmore : ∀ w ∈ more.inner, w.IsReadBy reader (m w) := by
      intro w hw
      exact hread w (List.mem_cons_of_mem v hw)
    have hcomma : skipSpace (after.1 ++ ascii ',' :: (more.text ++ rest)) =
        ascii ',' :: (more.text ++ rest) := skipSpace_blanks_cons after (by decide) _
    obtain ⟨b, left, hhead, hb⟩ := exists_skipSpace_items more rest
    have hclose : b ≠ ascii ']' := by
      rintro rfl
      exact absurd hb (by decide)
    have hleft : more.text.length ≤ steps := by omega
    have hih := read_items more hmore hleft rest
    simp only [text, List.append_assoc, List.cons_append, v.skipSpace_text]
    rw [toOption_elementsFrom, hv, collect]
    cases m v with
    | none => rfl
    | some a =>
      simp only [Option.map_some, Option.bind_some]
      rw [elements_next hcomma (by decide), nextItem_comma hhead hclose, ← hhead]
      change Option.map _ (elementsFrom reader steps _).toOption = _
      rw [hih, Option.map_map, Option.map_map]
      rfl

theorem read_members : (members : Outline .members) →
    (∀ v ∈ members.inner, v.IsReadBy reader (m v)) →
    ∀ {steps : Nat}, members.text.length ≤ steps → ∀ {rest start : Bytes},
      skipSpace (members.text ++ rest) = ascii '"' :: start →
      (pairsFrom reader steps start).toOption = (collectMembers m members).map fun ps => (ps, rest)
  | lastMember name before v after, hread, steps, hsteps, rest, start, hstart => by
    have hpos : 0 < steps := by
      simp only [text, List.length_append, List.length_singleton] at hsteps
      omega
    have hv := hread v (List.mem_singleton_self v) before
      (ends_blanks after (b := ascii '\x7d') (by decide) rest)
    simp only [text, List.append_assoc, List.singleton_append, name.skipSpace_text] at hstart
    rw [← (List.cons.inj hstart).2, toOption_pairsFrom, hv, collectMembers, pair?]
    cases textOf? name.marks with
    | none => rfl
    | some s =>
      cases m v with
      | none => rfl
      | some a =>
        simp only [Option.map_some, Option.bind_some, pairs_close hpos]
        rfl
  | member name before v after more, hread, steps, hsteps, rest, start, hstart => by
    simp only [text, List.length_append, List.length_cons] at hsteps
    obtain ⟨steps, rfl⟩ : ∃ k, steps = k + 1 := ⟨steps - 1, by omega⟩
    have hv := hread v List.mem_cons_self before
      (ends_blanks after (b := ascii ',') (by decide) (more.text ++ rest))
    have hmore : ∀ w ∈ more.inner, w.IsReadBy reader (m w) := by
      intro w hw
      exact hread w (List.mem_cons_of_mem v hw)
    have hcomma : skipSpace (after.1 ++ ascii ',' :: (more.text ++ rest)) =
        ascii ',' :: (more.text ++ rest) := skipSpace_blanks_cons after (by decide) _
    obtain ⟨left, hhead⟩ := exists_skipSpace_members more rest
    have hleft : more.text.length ≤ steps := by omega
    have hih := read_members more hmore hleft hhead
    simp only [text, List.append_assoc, List.cons_append, name.skipSpace_text] at hstart
    rw [← (List.cons.inj hstart).2, toOption_pairsFrom, hv, collectMembers, pair?]
    cases textOf? name.marks with
    | none => rfl
    | some s =>
      cases m v with
      | none => rfl
      | some a =>
        simp only [Option.map_some, Option.bind_some]
        rw [pairs_next hcomma (by decide), nextName_comma hhead]
        change Option.map _ (pairsFrom reader steps left).toOption = _
        rw [hih, Option.map_map, Option.map_map]
        rfl

end

/-! ### Values -/

/-- What a part stands for, if it has at most `depth` levels of nesting. -/
def within? {kind : Kind} (depth : Nat) (o : Outline kind) : Option kind.Meaning :=
  if o.levels ≤ depth then o.value? else none

theorem collect_within? (depth : Nat) :
    (items : Outline .items) → collect (within? depth) items = items.within? depth
  | lastItem before v after => by
    by_cases hv : v.levels ≤ depth
    · simp [collect, within?, levels, value?, hv]
    · simp [collect, within?, levels, hv]
  | item before v after more => by
    rw [collect, collect_within? depth more]
    by_cases hv : v.levels ≤ depth
    · by_cases hmore : more.levels ≤ depth
      · have hboth : max v.levels more.levels ≤ depth := Nat.max_le.2 ⟨hv, hmore⟩
        simp [within?, levels, value?, hv, hmore, hboth]
      · have hdeep : ¬max v.levels more.levels ≤ depth := fun h => hmore (Nat.max_le.1 h).2
        simp [within?, levels, hmore, hdeep]
    · have hdeep : ¬max v.levels more.levels ≤ depth := fun h => hv (Nat.max_le.1 h).1
      simp [within?, levels, hv, hdeep]

theorem collectMembers_within? (depth : Nat) :
    (members : Outline .members) →
      collectMembers (within? depth) members = members.within? depth
  | lastMember name before v after => by
    by_cases hv : v.levels ≤ depth
    · simp [collectMembers, within?, levels, value?, hv]
    · simp [collectMembers, within?, levels, pair?, hv]
  | member name before v after more => by
    rw [collectMembers, collectMembers_within? depth more]
    by_cases hv : v.levels ≤ depth
    · by_cases hmore : more.levels ≤ depth
      · have hboth : max v.levels more.levels ≤ depth := Nat.max_le.2 ⟨hv, hmore⟩
        simp [within?, levels, value?, hv, hmore, hboth]
      · have hdeep : ¬max v.levels more.levels ≤ depth := fun h => hmore (Nat.max_le.1 h).2
        simp [within?, levels, hmore, hdeep]
    · have hdeep : ¬max v.levels more.levels ≤ depth := fun h => hv (Nat.max_le.1 h).1
      simp [within?, levels, pair?, hv, hdeep]

theorem readValue_skipSpace (depth : Nat) (input : Bytes) :
    readValue depth (skipSpace input) = readValue depth input := by
  rw [readValue, readValue, skipSpace_skipSpace]

theorem readValue_blanks (depth : Nat) (before : Blanks) (input : Bytes) :
    readValue depth (before.1 ++ input) = readValue depth input := by
  rw [← readValue_skipSpace, skipSpace_blanks, readValue_skipSpace]

theorem readValue_digit {b : UInt8} (hb : isDigit b = true) (depth : Nat) (rest : Bytes) :
    readValue depth (b :: rest) = (do
      let (n, rest) ← numberBody false (b :: rest)
      .ok (.number n, rest)) := by
  obtain ⟨hdelimiter, hn, ht, hf, hminus⟩ := ne_of_isDigit hb
  rw [readValue, skipSpace_cons (isSpace_of_isDelimiter hdelimiter)]
  dsimp only
  rw [if_neg hn, if_neg ht, if_neg hf, if_neg hminus, if_pos hb]

/-- Inside an array there is one level less. -/
theorem readValue_bracket (depth : Nat) (rest : Bytes) :
    readValue (depth + 1) (ascii '[' :: rest) =
      (elements (readValue depth) (rest.length + 1) true rest >>= fun p =>
        .ok (.array p.1, p.2)) :=
  rfl

/-- Inside an object there is one level less. -/
theorem readValue_brace (depth : Nat) (rest : Bytes) :
    readValue (depth + 1) (ascii '\x7b' :: rest) =
      (pairs (readValue depth) (rest.length + 1) true rest >>= fun p =>
        .ok (.object (ofPairs p.1), p.2)) :=
  rfl

/-- Going on from what a reader comes to, with nothing else read. -/
theorem toOption_bind_ok {α β : Type} {x : Except Stop (α × Bytes)} (f : α → β) :
    (x >>= fun p => .ok (f p.1, p.2)).toOption = x.toOption.map fun p => (f p.1, p.2) := by
  cases x with
  | error stop => rfl
  | ok p => rfl

theorem isReadBy_null (depth : Nat) : null.IsReadBy (readValue depth) (null.within? depth) := by
  intro before rest hrest
  rw [readValue_blanks, readValue]
  change (literal ['u', 'l', 'l'] (['u', 'l', 'l'].map ascii ++ rest) >>= _).toOption = _
  rw [literal_append]
  rfl

theorem isReadBy_bool (b : Bool) (depth : Nat) :
    (bool b).IsReadBy (readValue depth) ((bool b).within? depth) := by
  intro before rest hrest
  rw [readValue_blanks, readValue]
  cases b with
  | true =>
    change (literal ['r', 'u', 'e'] (['r', 'u', 'e'].map ascii ++ rest) >>= _).toOption = _
    rw [literal_append]
    rfl
  | false =>
    change (literal ['a', 'l', 's', 'e'] (['a', 'l', 's', 'e'].map ascii ++ rest) >>= _).toOption = _
    rw [literal_append]
    rfl

theorem isReadBy_number (negative : Bool) {digits : Bytes} (hdigits : IsNumeral digits)
    (depth : Nat) :
    (number negative digits hdigits).IsReadBy (readValue depth)
      ((number negative digits hdigits).within? depth) := by
  intro before rest hrest
  have hread := toOption_numberBody hdigits hrest negative
  have hvalue : within? depth (number negative digits hdigits) =
      (numeralValue? negative digits).map Json.number := if_pos (Nat.zero_le depth)
  rw [readValue_blanks, hvalue, Option.map_map]
  cases negative with
  | true =>
    rw [readValue]
    change (numberBody true (digits ++ rest) >>= fun p => _).toOption = _
    rw [toOption_bind_ok, hread, Option.map_map]
    rfl
  | false =>
    obtain ⟨b, ds, rfl, hb⟩ := hdigits.exists_head
    change (readValue depth (b :: (ds ++ rest))).toOption = _
    rw [readValue_digit hb, toOption_bind_ok]
    change Option.map _ (numberBody false ((b :: ds) ++ rest)).toOption = _
    rw [hread, Option.map_map]
    rfl

theorem isReadBy_string (marks : List Mark) (depth : Nat) :
    (string marks).IsReadBy (readValue depth) ((string marks).within? depth) := by
  intro before rest hrest
  have hvalue : within? depth (string marks) = (textOf? marks).map Json.string :=
    if_pos (Nat.zero_le depth)
  simp only [text, List.cons_append, List.append_assoc, List.nil_append]
  rw [readValue_blanks, readValue, hvalue]
  change (stringBody (spelled marks ++ ascii '"' :: rest) >>= fun p => _).toOption = _
  rw [toOption_bind_ok, toOption_stringBody, Option.map_map, Option.map_map]
  rfl

theorem isReadBy_emptyArray (blanks : Blanks) (depth : Nat) :
    (emptyArray blanks).IsReadBy (readValue (depth + 1)) ((emptyArray blanks).within? (depth + 1)) := by
  intro before rest hrest
  have hvalue : within? (depth + 1) (emptyArray blanks) = some (Json.array []) :=
    if_pos (Nat.succ_pos depth)
  simp only [text, List.cons_append, List.append_assoc, List.nil_append]
  rw [readValue_blanks, readValue_bracket, elements_close (Nat.succ_pos _), hvalue]
  rfl

/-- An array is read if the values inside are, with one level less. -/
theorem isReadBy_array {items : Outline .items} {depth : Nat}
    (h : ∀ v ∈ items.inner, v.IsReadBy (readValue depth) (v.within? depth)) :
    (array items).IsReadBy (readValue (depth + 1)) ((array items).within? (depth + 1)) := by
  intro before rest hrest
  have hvalue : within? (depth + 1) (array items) = (items.within? depth).map Json.array := by
    simp only [within?, levels, value?, Nat.add_le_add_iff_right]
    split
    · rfl
    · rfl
  have hsteps : items.text.length ≤ (items.text ++ rest).length := by
    rw [List.length_append]
    exact Nat.le_add_right _ _
  obtain ⟨b, more, hhead, hb⟩ := exists_skipSpace_items items rest
  have hclose : b ≠ ascii ']' := by
    rintro rfl
    exact absurd hb (by decide)
  rw [readValue_blanks]
  change (readValue (depth + 1) (ascii '[' :: (items.text ++ rest))).toOption = _
  rw [readValue_bracket, toOption_bind_ok, elements_next hhead hclose]
  change Option.map _ (elementsFrom (readValue depth) _ (b :: more)).toOption = _
  rw [← hhead, read_items items h hsteps, collect_within?, hvalue, Option.map_map, Option.map_map]
  rfl

theorem isReadBy_emptyObject (blanks : Blanks) (depth : Nat) :
    (emptyObject blanks).IsReadBy (readValue (depth + 1))
      ((emptyObject blanks).within? (depth + 1)) := by
  intro before rest hrest
  have hvalue : within? (depth + 1) (emptyObject blanks) = some (Json.object []) :=
    if_pos (Nat.succ_pos depth)
  simp only [text, List.cons_append, List.append_assoc, List.nil_append]
  rw [readValue_blanks, readValue_brace, pairs_close (Nat.succ_pos _), hvalue]
  rfl

/-- An object is read if the values inside are, with one level less. -/
theorem isReadBy_object {members : Outline .members} {depth : Nat}
    (h : ∀ v ∈ members.inner, v.IsReadBy (readValue depth) (v.within? depth)) :
    (object members).IsReadBy (readValue (depth + 1)) ((object members).within? (depth + 1)) := by
  intro before rest hrest
  have hvalue : within? (depth + 1) (object members) =
      (members.within? depth).map fun pairs => Json.object (ofPairs pairs) := by
    simp only [within?, levels, value?, Nat.add_le_add_iff_right]
    split
    · rfl
    · rfl
  have hsteps : members.text.length ≤ (members.text ++ rest).length := by
    rw [List.length_append]
    exact Nat.le_add_right _ _
  obtain ⟨start, hhead⟩ := exists_skipSpace_members members rest
  rw [readValue_blanks]
  change (readValue (depth + 1) (ascii '\x7b' :: (members.text ++ rest))).toOption = _
  rw [readValue_brace, toOption_bind_ok fun ps => Json.object (ofPairs ps),
    pairs_next hhead (by decide)]
  change Option.map _ (pairsFrom (readValue depth) _ start).toOption = _
  rw [read_members members h hsteps hhead, collectMembers_within?, hvalue, Option.map_map,
    Option.map_map]
  rfl

/-- No array or object is read where no level is left. -/
theorem isReadBy_zero {v : Outline .value} (hlevels : 0 < v.levels) {b : UInt8} {more : Bytes}
    (htext : v.text = b :: more) (hopen : b = ascii '[' ∨ b = ascii '\x7b') :
    v.IsReadBy (readValue 0) (v.within? 0) := by
  intro before rest hrest
  have hvalue : v.within? 0 = none := if_neg (Nat.not_le.2 hlevels)
  rw [readValue_blanks, htext, hvalue]
  rcases hopen with rfl | rfl
  · rfl
  · rfl

/-- **The reader comes to the value of an outline,** if it has one and is not nested too deep. -/
theorem isReadBy_readValue (o : Outline .value) (depth : Nat) :
    o.IsReadBy (readValue depth) (o.within? depth) := by
  -- the values inside an array or object are read with one level less
  induction o using rec_inner generalizing depth with
  | null => exact isReadBy_null depth
  | bool b => exact isReadBy_bool b depth
  | number negative digits hdigits => exact isReadBy_number negative hdigits depth
  | string marks => exact isReadBy_string marks depth
  | emptyArray blanks =>
    cases depth with
    | zero => exact isReadBy_zero Nat.one_pos rfl (.inl rfl)
    | succ depth => exact isReadBy_emptyArray blanks depth
  | array items ih =>
    cases depth with
    | zero => exact isReadBy_zero (Nat.succ_pos _) rfl (.inl rfl)
    | succ depth => exact isReadBy_array fun v hv => ih v hv depth
  | emptyObject blanks =>
    cases depth with
    | zero => exact isReadBy_zero Nat.one_pos rfl (.inr rfl)
    | succ depth => exact isReadBy_emptyObject blanks depth
  | object members ih =>
    cases depth with
    | zero => exact isReadBy_zero (Nat.succ_pos _) rfl (.inr rfl)
    | succ depth => exact isReadBy_object fun v hv => ih v hv depth

end Outline

/-! ### Whole texts -/

/-- **Reading a text:** the value of its outline, if it has one and is not nested too deep. -/
theorem toOption_parse (before : Blanks) (o : Outline .value) (after : Blanks) :
    (parse (before.1 ++ (o.text ++ after.1))).toOption = o.within? maxDepth := by
  rw [parse, toOption_readAll, o.isReadBy_readValue maxDepth before (ends_of_blanks after)]
  cases o.within? maxDepth with
  | none => rfl
  | some j =>
    change (if skipSpace after.1 = [] then some j else none) = some j
    rw [if_pos (skipSpace_of_blanks after)]

/-- A value that can be read: it is not nested too deep, its strings are texts and its numbers are
    in range. -/
structure Outline.IsReadable (o : Outline .value) : Prop where
  shallow : o.levels ≤ maxDepth
  texts : ∀ marks ∈ o.strings, (textOf? marks).isSome
  inRange : ∀ n ∈ o.numbers, (numeralValue? n.1 n.2).isSome

theorem exists_parse_eq_ok_iff (before : Blanks) (o : Outline .value) (after : Blanks) :
    (∃ j, parse (before.1 ++ (o.text ++ after.1)) = .ok j) ↔ o.IsReadable := by
  simp only [← toOption_eq_some_iff, toOption_parse, ← Option.isSome_iff_exists]
  constructor
  · intro h
    unfold Outline.within? at h
    split at h
    · next hlevels =>
      obtain ⟨htexts, hnumbers⟩ := o.isSome_value?_iff.1 h
      exact ⟨hlevels, htexts, hnumbers⟩
    · cases h
  · intro h
    rw [Outline.within?, if_pos h.shallow]
    exact o.isSome_value?_iff.2 ⟨h.texts, h.inRange⟩

end NetDelegate.Json
