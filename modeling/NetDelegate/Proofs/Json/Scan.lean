/-
  NetDelegate/Proofs/Json/Scan.lean
  =================================
  **The scan accepts the grammar.**  It passes over a value, whatever follows
  (`isSkippedBy_skipLevels`), and over nothing else (`passesValues_skipLevels`).  So a text is accepted
  just when it is a value with blanks around it (`scan_eq_ok_iff`).
-/
import NetDelegate.Proofs.Json.Outline

namespace NetDelegate.Json

/-! ### The inside of arrays and objects -/

section
variable {close : Char} {atEnd : Issue} {toNext : Bool → Bytes → Except Stop Bytes}
  {item : Bytes → Except Stop Bytes}

theorem skipInside_close (hclose : isSpace (ascii close) = false) {steps : Nat}
    (hsteps : 0 < steps) (first : Bool) (blanks : Blanks) (rest : Bytes) :
    skipInside close atEnd toNext item steps first (blanks.1 ++ ascii close :: rest) =
      .ok rest := by
  obtain ⟨steps, rfl⟩ := Nat.exists_eq_succ_of_ne_zero (Nat.ne_of_gt hsteps)
  rw [skipInside, skipSpace_blanks_cons blanks hclose]
  exact if_pos rfl

theorem skipInside_next {input rest : Bytes} {b : UInt8} (hinput : skipSpace input = b :: rest)
    (hb : b ≠ ascii close) (steps : Nat) (first : Bool) :
    skipInside close atEnd toNext item (steps + 1) first input =
      (do
        let start ← toNext first (b :: rest)
        let rest ← item start
        skipInside close atEnd toNext item steps false rest) := by
  rw [skipInside, hinput]
  exact if_neg hb

end

/-- Goes past a name and its colon. -/
def skipName (input : Bytes) : Except Stop Bytes :=
  match skipSpace input with
  | [] => stopOn .endInObject []
  | b :: rest =>
    if b = ascii '"' then do
      let rest ← skipString rest
      colon rest
    else stopOn .keyExpected (b :: rest)

theorem skipToMember_first {input rest : Bytes} {b : UInt8} (h : skipSpace input = b :: rest) :
    skipToMember true (b :: rest) = skipName input := by
  rw [skipName, h]
  rfl

theorem skipToMember_comma (input : Bytes) :
    skipToMember false (ascii ',' :: input) = skipName input := rfl

theorem colon_append (blanks : Blanks) (rest : Bytes) :
    colon (blanks.1 ++ ascii ':' :: rest) = .ok rest := by
  rw [colon, skipSpace_blanks_cons blanks (by decide)]
  rfl

theorem Name.skipSpace_text (name : Name) (rest : Bytes) :
    skipSpace (name.text ++ rest) = ascii '"' ::
      (spelled name.marks ++ ascii '"' :: (name.after.1 ++ ascii ':' :: rest)) := by
  simp only [text, List.append_assoc, List.cons_append, List.nil_append]
  exact skipSpace_blanks_cons name.before (by decide) _

theorem skipName_text (name : Name) (rest : Bytes) :
    skipName (name.text ++ rest) = .ok rest := by
  rw [skipName, name.skipSpace_text]
  change (do
    let rest ← skipString _
    colon rest) = _
  rw [skipString_spelled]
  exact colon_append name.after rest

/-! ### What is passed over -/

namespace Outline

/-- A scan for values passes over this one, with blanks before it. -/
def IsSkippedBy (item : Bytes → Except Stop Bytes) (v : Outline .value) : Prop :=
  ∀ (before : Blanks) {rest : Bytes}, Ends rest →
    item (before.1 ++ (v.text ++ rest)) = .ok rest

variable {item : Bytes → Except Stop Bytes}

/-- After the first item the scan goes on to the closing bracket. -/
theorem skip_items : (items : Outline .items) → (∀ v ∈ items.inner, v.IsSkippedBy item) →
    ∀ {steps : Nat}, items.text.length ≤ steps → ∀ rest,
      (do
        let left ← item (items.text ++ rest)
        skipInside ']' .endInList skipToItem item steps false left) = .ok rest
  | lastItem before v after, hitem, steps, hsteps, rest => by
    have hpos : 0 < steps := by
      simp only [text, List.length_append, List.length_singleton] at hsteps
      omega
    have hv := hitem v (List.mem_singleton_self v) before
      (ends_blanks after (b := ascii ']') (by decide) rest)
    simp only [text, List.append_assoc, List.singleton_append]
    rw [hv]
    exact skipInside_close (by decide) hpos false after rest
  | Outline.item before v after more, hitem, steps, hsteps, rest => by
    simp only [text, List.length_append, List.length_cons] at hsteps
    obtain ⟨steps, rfl⟩ : ∃ k, steps = k + 1 := ⟨steps - 1, by omega⟩
    have hv := hitem v List.mem_cons_self before
      (ends_blanks after (b := ascii ',') (by decide) (more.text ++ rest))
    have hmore : ∀ w ∈ more.inner, w.IsSkippedBy item := by
      intro w hw
      exact hitem w (List.mem_cons_of_mem v hw)
    simp only [text, List.append_assoc, List.cons_append]
    rw [hv]
    have hcomma : skipSpace (after.1 ++ ascii ',' :: (more.text ++ rest)) =
        ascii ',' :: (more.text ++ rest) := skipSpace_blanks_cons after (by decide) _
    change skipInside _ _ _ _ _ _ _ = _
    rw [skipInside_next hcomma (by decide)]
    exact skip_items more hmore (by omega) rest

theorem skip_members : (members : Outline .members) →
    (∀ v ∈ members.inner, v.IsSkippedBy item) →
    ∀ {steps : Nat}, members.text.length ≤ steps → ∀ rest,
      (do
        let start ← skipName (members.text ++ rest)
        let left ← item start
        skipInside '\x7d' .endInObject skipToMember item steps false left) = .ok rest
  | lastMember name before v after, hitem, steps, hsteps, rest => by
    have hpos : 0 < steps := by
      simp only [text, List.length_append, List.length_singleton] at hsteps
      omega
    have hv := hitem v (List.mem_singleton_self v) before
      (ends_blanks after (b := ascii '\x7d') (by decide) rest)
    simp only [text, List.append_assoc, List.singleton_append]
    rw [skipName_text]
    change (item _ >>= _) = _
    rw [hv]
    exact skipInside_close (by decide) hpos false after rest
  | member name before v after more, hitem, steps, hsteps, rest => by
    simp only [text, List.length_append, List.length_cons] at hsteps
    obtain ⟨steps, rfl⟩ : ∃ k, steps = k + 1 := ⟨steps - 1, by omega⟩
    have hv := hitem v List.mem_cons_self before
      (ends_blanks after (b := ascii ',') (by decide) (more.text ++ rest))
    have hmore : ∀ w ∈ more.inner, w.IsSkippedBy item := by
      intro w hw
      exact hitem w (List.mem_cons_of_mem v hw)
    simp only [text, List.append_assoc, List.cons_append]
    rw [skipName_text]
    change (item _ >>= _) = _
    rw [hv]
    have hcomma : skipSpace (after.1 ++ ascii ',' :: (more.text ++ rest)) =
        ascii ',' :: (more.text ++ rest) := skipSpace_blanks_cons after (by decide) _
    change skipInside _ _ _ _ _ _ _ = _
    rw [skipInside_next hcomma (by decide)]
    exact skip_members more hmore (by omega) rest

theorem skipLevels_skipSpace (levels : Nat) (input : Bytes) :
    skipLevels levels (skipSpace input) = skipLevels levels input := by
  rw [skipLevels, skipLevels, skipSpace_skipSpace]

/-- Blanks before a value are passed over. -/
theorem skipLevels_blanks (levels : Nat) (before : Blanks) (input : Bytes) :
    skipLevels levels (before.1 ++ input) = skipLevels levels input := by
  rw [← skipLevels_skipSpace, skipSpace_blanks, skipLevels_skipSpace]

theorem exists_skipSpace_members (members : Outline .members) (rest : Bytes) :
    ∃ more, skipSpace (members.text ++ rest) = ascii '"' :: more := by
  cases members with
  | lastMember name before v after =>
    simp only [text, List.append_assoc]
    exact ⟨_, name.skipSpace_text _⟩
  | member name before v after more =>
    simp only [text, List.append_assoc]
    exact ⟨_, name.skipSpace_text _⟩

theorem skipLevels_digit {b : UInt8} (hb : isDigit b = true) (levels : Nat) (rest : Bytes) :
    skipLevels levels (b :: rest) = skipNumber (b :: rest) := by
  obtain ⟨hdelimiter, hn, ht, hf, hminus⟩ := ne_of_isDigit hb
  rw [skipLevels, skipSpace_cons (isSpace_of_isDelimiter hdelimiter)]
  dsimp only
  rw [if_neg hn, if_neg ht, if_neg hf, if_neg hminus, if_pos hb]

/-- Inside an array there is one level less. -/
theorem skipLevels_bracket (levels : Nat) (rest : Bytes) :
    skipLevels (levels + 1) (ascii '[' :: rest) =
      skipInside ']' .endInList skipToItem (skipLevels levels) (rest.length + 1) true rest :=
  rfl

/-- Inside an object there is one level less. -/
theorem skipLevels_brace (levels : Nat) (rest : Bytes) :
    skipLevels (levels + 1) (ascii '\x7b' :: rest) =
      skipInside '\x7d' .endInObject skipToMember (skipLevels levels) (rest.length + 1) true rest :=
  rfl

theorem isSkippedBy_number (negative : Bool) {digits : Bytes} (hdigits : IsNumeral digits)
    (levels : Nat) : (number negative digits hdigits).IsSkippedBy (skipLevels levels) := by
  intro before rest hrest
  have hskip := skipNumber_append hdigits hrest
  rw [skipLevels_blanks]
  cases negative with
  | true =>
    rw [skipLevels]
    exact hskip
  | false =>
    obtain ⟨b, ds, rfl, hb⟩ := hdigits.exists_head
    exact (skipLevels_digit hb levels (ds ++ rest)).trans hskip

/-- An array is passed over if the values inside are, with one level less. -/
theorem isSkippedBy_array {items : Outline .items} {levels : Nat}
    (h : ∀ v ∈ items.inner, v.IsSkippedBy (skipLevels levels)) :
    (array items).IsSkippedBy (skipLevels (levels + 1)) := by
  intro before rest hrest
  obtain ⟨b, more, hhead, hb⟩ := exists_skipSpace_items items rest
  have hclose : b ≠ ascii ']' := by
    rintro rfl
    exact absurd hb (by decide)
  rw [skipLevels_blanks]
  change skipLevels (levels + 1) (ascii '[' :: (items.text ++ rest)) = _
  rw [skipLevels_bracket, skipInside_next hhead hclose]
  change (skipLevels levels (b :: more) >>= _) = _
  rw [← hhead, skipLevels_skipSpace]
  apply skip_items items h
  rw [List.length_append]
  omega

/-- An object is passed over if the values inside are, with one level less. -/
theorem isSkippedBy_object {members : Outline .members} {levels : Nat}
    (h : ∀ v ∈ members.inner, v.IsSkippedBy (skipLevels levels)) :
    (object members).IsSkippedBy (skipLevels (levels + 1)) := by
  intro before rest hrest
  obtain ⟨more, hhead⟩ := exists_skipSpace_members members rest
  rw [skipLevels_blanks]
  change skipLevels (levels + 1) (ascii '\x7b' :: (members.text ++ rest)) = _
  rw [skipLevels_brace, skipInside_next hhead (by decide), skipToMember_first hhead]
  apply skip_members members h
  rw [List.length_append]
  omega

/-- **The scan goes to the end of a value,** if it allows for as many levels of nesting. -/
theorem isSkippedBy_skipLevels (o : Outline .value) {levels : Nat} (hlevels : o.levels ≤ levels) :
    o.IsSkippedBy (skipLevels levels) := by
  -- the values inside an array or object are passed over with one level less
  induction o using rec_inner generalizing levels with
  | null =>
    intro before rest hrest
    rw [skipLevels_blanks, skipLevels]
    exact literal_append ['u', 'l', 'l'] rest
  | bool b =>
    intro before rest hrest
    rw [skipLevels_blanks, skipLevels]
    cases b with
    | true => exact literal_append ['r', 'u', 'e'] rest
    | false => exact literal_append ['a', 'l', 's', 'e'] rest
  | number negative digits hdigits => exact isSkippedBy_number negative hdigits levels
  | string marks =>
    intro before rest hrest
    simp only [text, List.cons_append, List.append_assoc, List.nil_append]
    rw [skipLevels_blanks, skipLevels]
    exact skipString_spelled marks rest
  | emptyArray blanks =>
    intro before rest hrest
    obtain ⟨levels, rfl⟩ := Nat.exists_eq_succ_of_ne_zero (Nat.ne_of_gt hlevels)
    simp only [text, List.cons_append, List.append_assoc, List.nil_append]
    rw [skipLevels_blanks, skipLevels_bracket]
    exact skipInside_close (by decide) (Nat.succ_pos _) true blanks rest
  | array items ih =>
    cases levels with
    | zero => cases hlevels
    | succ levels =>
      apply isSkippedBy_array
      intro v hv
      exact ih v hv (Nat.le_trans (levels_le_of_mem_inner items v hv) (Nat.le_of_succ_le_succ hlevels))
  | emptyObject blanks =>
    intro before rest hrest
    obtain ⟨levels, rfl⟩ := Nat.exists_eq_succ_of_ne_zero (Nat.ne_of_gt hlevels)
    simp only [text, List.cons_append, List.append_assoc, List.nil_append]
    rw [skipLevels_blanks, skipLevels_brace]
    exact skipInside_close (by decide) (Nat.succ_pos _) true blanks rest
  | object members ih =>
    cases levels with
    | zero => cases hlevels
    | succ levels =>
      apply isSkippedBy_object
      intro v hv
      exact ih v hv
        (Nat.le_trans (levels_le_of_mem_inner members v hv) (Nat.le_of_succ_le_succ hlevels))

end Outline

/-! ### Nothing else is passed over -/

theorem exists_blanks_of_colon {input rest : Bytes} (h : colon input = .ok rest) :
    ∃ blanks : Blanks, input = blanks.1 ++ ascii ':' :: rest := by
  unfold colon at h
  split at h
  · cases h
  · next b more hinput =>
    split at h
    · next hb =>
      cases h
      rw [hb] at hinput
      exact exists_blanks_of_skipSpace hinput
    · cases h

theorem exists_name_of_skipName {input rest : Bytes} (h : skipName input = .ok rest) :
    ∃ name : Name, input = name.text ++ rest := by
  unfold skipName at h
  split at h
  · cases h
  · next b more hinput =>
    split at h
    · next hb =>
      obtain ⟨left, hstring, hcolon⟩ := exists_of_bind_eq_ok h
      obtain ⟨before, rfl⟩ := exists_blanks_of_skipSpace hinput
      obtain ⟨marks, rfl⟩ := exists_spelled_of_skipString hstring
      obtain ⟨after, rfl⟩ := exists_blanks_of_colon hcolon
      refine ⟨⟨before, marks, after⟩, ?_⟩
      rw [hb]
      simp only [Name.text, List.append_assoc, List.cons_append, List.nil_append]
    · cases h

/-- The inside of an array or object is at its closing bracket, or goes on. -/
theorem skipInside_cases {close : Char} {atEnd : Issue} {toNext : Bool → Bytes → Except Stop Bytes}
    {item : Bytes → Except Stop Bytes} {steps : Nat} {first : Bool} {input rest : Bytes}
    (h : skipInside close atEnd toNext item steps first input = .ok rest) :
    (∃ blanks : Blanks, input = blanks.1 ++ ascii close :: rest) ∨
      ∃ b more start left k, skipSpace input = b :: more ∧ toNext first (b :: more) = .ok start ∧
        item start = .ok left ∧ k < steps ∧
        skipInside close atEnd toNext item k false left = .ok rest := by
  cases steps with
  | zero => cases h
  | succ steps =>
    rw [skipInside] at h
    split at h
    · cases h
    · next b more hinput =>
      split at h
      · next hb =>
        cases h
        rw [hb] at hinput
        exact .inl (exists_blanks_of_skipSpace hinput)
      · obtain ⟨start, hstart, h⟩ := exists_of_bind_eq_ok h
        obtain ⟨left, hitem, h⟩ := exists_of_bind_eq_ok h
        exact .inr ⟨b, more, start, left, steps, hinput, hstart, hitem, Nat.lt_succ_self steps, h⟩

/-- A scan for values passes over values only, with blanks before them. -/
def PassesValues (item : Bytes → Except Stop Bytes) : Prop :=
  ∀ {input rest : Bytes}, item input = .ok rest →
    ∃ (before : Blanks) (v : Outline .value), input = before.1 ++ (v.text ++ rest)

section
variable {item : Bytes → Except Stop Bytes} (hvalues : PassesValues item)
include hvalues

theorem exists_items {steps : Nat} {input left rest : Bytes} (hitem : item input = .ok left)
    (h : skipInside ']' .endInList skipToItem item steps false left = .ok rest) :
    ∃ items : Outline .items, input = items.text ++ rest := by
  induction steps using Nat.strongRecOn generalizing input left with
  | ind steps ih =>
    obtain ⟨before, v, rfl⟩ := hvalues hitem
    rcases skipInside_cases h with ⟨after, rfl⟩ |
      ⟨b, more, start, left', k, hleft, hnext, hstart, hk, hinside⟩
    · refine ⟨.lastItem before v after, ?_⟩
      simp only [Outline.text, List.append_assoc, List.singleton_append]
    · obtain ⟨after, rfl⟩ := exists_blanks_of_skipSpace hleft
      rw [skipToItem, if_neg Bool.false_ne_true] at hnext
      split at hnext
      · next hb =>
        cases hnext
        obtain ⟨items, rfl⟩ := ih k hk hstart hinside
        refine ⟨.item before v after items, ?_⟩
        rw [hb]
        simp only [Outline.text, List.append_assoc, List.cons_append]
      · cases hnext

theorem exists_members {steps : Nat} {input start left rest : Bytes}
    (hname : skipName input = .ok start) (hitem : item start = .ok left)
    (h : skipInside '\x7d' .endInObject skipToMember item steps false left = .ok rest) :
    ∃ members : Outline .members, input = members.text ++ rest := by
  induction steps using Nat.strongRecOn generalizing input start left with
  | ind steps ih =>
    obtain ⟨name, rfl⟩ := exists_name_of_skipName hname
    obtain ⟨before, v, rfl⟩ := hvalues hitem
    rcases skipInside_cases h with ⟨after, rfl⟩ |
      ⟨b, more, start, left', k, hleft, hnext, hstart, hk, hinside⟩
    · refine ⟨.lastMember name before v after, ?_⟩
      simp only [Outline.text, List.append_assoc, List.singleton_append]
    · obtain ⟨after, rfl⟩ := exists_blanks_of_skipSpace hleft
      by_cases hb : b = ascii ','
      · rw [hb, skipToMember_comma] at hnext
        obtain ⟨members, rfl⟩ := ih k hk hnext hstart hinside
        refine ⟨.member name before v after members, ?_⟩
        rw [hb]
        simp only [Outline.text, List.append_assoc, List.cons_append]
      · rw [skipToMember, if_neg Bool.false_ne_true, if_neg hb] at hnext
        cases hnext

end

theorem exists_outline_of_array {levels steps : Nat} {input rest : Bytes}
    (hvalues : PassesValues (skipLevels levels))
    (h : skipInside ']' .endInList skipToItem (skipLevels levels) steps true input = .ok rest) :
    ∃ v : Outline .value, ascii '[' :: input = v.text ++ rest := by
  rcases skipInside_cases h with ⟨blanks, rfl⟩ |
    ⟨b, more, start, left, k, hinput, hnext, hitem, -, hinside⟩
  · refine ⟨.emptyArray blanks, ?_⟩
    simp only [Outline.text, List.append_assoc, List.cons_append, List.nil_append]
  · cases hnext
    rw [← hinput, Outline.skipLevels_skipSpace] at hitem
    obtain ⟨items, rfl⟩ := exists_items hvalues hitem hinside
    exact ⟨.array items, rfl⟩

theorem exists_outline_of_object {levels steps : Nat} {input rest : Bytes}
    (hvalues : PassesValues (skipLevels levels))
    (h : skipInside '\x7d' .endInObject skipToMember (skipLevels levels) steps true input =
      .ok rest) :
    ∃ v : Outline .value, ascii '\x7b' :: input = v.text ++ rest := by
  rcases skipInside_cases h with ⟨blanks, rfl⟩ |
    ⟨b, more, start, left, k, hinput, hnext, hitem, -, hinside⟩
  · refine ⟨.emptyObject blanks, ?_⟩
    simp only [Outline.text, List.append_assoc, List.cons_append, List.nil_append]
  · rw [skipToMember_first hinput] at hnext
    obtain ⟨members, rfl⟩ := exists_members hvalues hnext hitem hinside
    exact ⟨.object members, rfl⟩

/-- **What the scan passes over is a value,** with blanks before it. -/
theorem passesValues_skipLevels (levels : Nat) : PassesValues (skipLevels levels) := by
  induction levels using Nat.strongRecOn with
  | ind levels ih =>
    intro input rest h
    rw [skipLevels] at h
    cases hinput : skipSpace input with
    | nil =>
      rw [hinput] at h
      cases h
    | cons b more =>
      obtain ⟨before, rfl⟩ := exists_blanks_of_skipSpace hinput
      rw [hinput] at h
      dsimp only at h
      suffices hvalue : ∃ v : Outline .value, b :: more = v.text ++ rest by
        obtain ⟨v, hvalue⟩ := hvalue
        exact ⟨before, v, by rw [hvalue]⟩
      -- the first byte tells what the value is
      split at h
      · next hb =>
        rw [hb, eq_of_literal h]
        exact ⟨.null, rfl⟩
      split at h
      · next hb =>
        rw [hb, eq_of_literal h]
        exact ⟨.bool true, rfl⟩
      split at h
      · next hb =>
        rw [hb, eq_of_literal h]
        exact ⟨.bool false, rfl⟩
      split at h
      · next hb =>
        obtain ⟨digits, hdigits, rfl⟩ := exists_numeral_of_skipNumber h
        rw [hb]
        exact ⟨.number true digits hdigits, rfl⟩
      split at h
      · obtain ⟨digits, hdigits, hall⟩ := exists_numeral_of_skipNumber h
        rw [hall]
        exact ⟨.number false digits hdigits, rfl⟩
      split at h
      · next hb =>
        obtain ⟨marks, rfl⟩ := exists_spelled_of_skipString h
        refine ⟨.string marks, ?_⟩
        rw [hb]
        simp only [Outline.text, List.append_assoc, List.cons_append, List.nil_append]
      split at h
      · next hb =>
        rw [hb]
        cases levels with
        | zero => cases h
        | succ levels => exact exists_outline_of_array (ih levels (Nat.lt_succ_self _)) h
      split at h
      · next hb =>
        rw [hb]
        cases levels with
        | zero => cases h
        | succ levels => exact exists_outline_of_object (ih levels (Nat.lt_succ_self _)) h
      · cases h

/-! ### Whole texts -/

theorem toOption_readAll {α : Type} (reader : Bytes → Except Stop (α × Bytes)) (text : Bytes) :
    (readAll reader text).toOption =
      (reader text).toOption.bind fun p => if skipSpace p.2 = [] then some p.1 else none := by
  have hmap {β : Type} (x : Except Stop β) :
      (x.mapError (·.locate text)).toOption = x.toOption := by
    cases x with
    | error stop => rfl
    | ok v => rfl
  unfold readAll
  dsimp only
  rw [hmap, toOption_bind]
  congr 1
  funext p
  cases skipSpace p.2 with
  | nil => rfl
  | cons b rest => rfl

/-- A text is a value with blanks around it where it is read as a whole by a reader that goes as
    far as the scan. -/
theorem exists_outline_of_readAll {α : Type} {read : Bytes → Except Stop (α × Bytes)}
    {text : Bytes} {v : α}
    (hread : ∀ {v rest}, read text = .ok (v, rest) → ∃ levels, skipLevels levels text = .ok rest)
    (h : readAll read text = .ok v) :
    ∃ (before : Blanks) (o : Outline .value) (after : Blanks),
      text = before.1 ++ (o.text ++ after.1) := by
  rw [← toOption_eq_some_iff, toOption_readAll] at h
  obtain ⟨p, hp, hrest⟩ := Option.bind_eq_some_iff.1 h
  rw [toOption_eq_some_iff] at hp
  split at hrest
  · next hblank =>
    obtain ⟨levels, hskip⟩ := hread hp
    obtain ⟨before, o, rfl⟩ := passesValues_skipLevels levels hskip
    obtain ⟨after, hafter⟩ := exists_blanks p.2
    rw [hblank, List.append_nil] at hafter
    exact ⟨before, o, after, by rw [hafter]⟩
  · cases hrest

/-- **What the scan accepts:** a value with blanks around it. -/
theorem scan_eq_ok_iff {text : Bytes} :
    scan text = .ok () ↔ ∃ (before : Blanks) (o : Outline .value) (after : Blanks),
      text = before.1 ++ (o.text ++ after.1) := by
  constructor
  · refine exists_outline_of_readAll fun {_ rest} hread => ?_
    obtain ⟨rest', hvalue, hrest⟩ := exists_of_bind_eq_ok hread
    cases hrest
    exact ⟨_, hvalue⟩
  · rintro ⟨before, o, after, rfl⟩
    have hlevels : o.levels ≤ (before.1 ++ (o.text ++ after.1)).length + 1 := by
      have hlength := o.levels_le_length
      rw [List.length_append, List.length_append]
      omega
    have hskip : skipValue (before.1 ++ (o.text ++ after.1)) = .ok after.1 :=
      o.isSkippedBy_skipLevels hlevels before (ends_of_blanks after)
    rw [← toOption_eq_some_iff, scan, toOption_readAll, hskip]
    change (if skipSpace after.1 = [] then some () else none) = some ()
    rw [if_pos (skipSpace_of_blanks after)]

end NetDelegate.Json
