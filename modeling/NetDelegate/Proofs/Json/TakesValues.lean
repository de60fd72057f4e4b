/-
  NetDelegate/Proofs/Json/TakesValues.lean
  ========================================
  **Nothing but a value is taken for a record.**  Where the readers of strings and of fields come to
  something they have taken a value (`TakesValues`).  This goes from the fields to the members of an
  object and to the values of an array, and so to the record (`Record.takesValues_read`).
-/
import NetDelegate.Proofs.Json.Acceptance
import NetDelegate.Proofs.Json.Positional

namespace NetDelegate.Json

/-! ### Readers of values -/

/-- Where the reader comes to something it has taken a value, with blanks before it. -/
def TakesValues {α : Type} (read : Bytes → Except Stop (α × Bytes)) : Prop :=
  ∀ {input : Bytes} {a : α} {rest : Bytes}, read input = .ok (a, rest) →
    ∃ (before : Blanks) (v : Outline .value), input = before.1 ++ (v.text ++ rest)

theorem GoesAsFar.takesValues {α : Type} {read : Bytes → Except Stop (α × Bytes)} {levels : Nat}
    (h : GoesAsFar read (skipLevels levels)) : TakesValues read :=
  fun hread => passesValues_skipLevels levels (h hread)

theorem goesAsFar_readString (levels : Nat) : GoesAsFar readString (skipLevels levels) := by
  intro input s rest h
  rw [readString] at h
  split at h
  · cases h
  · next b more hinput =>
    split at h
    · next hb =>
      rw [skipLevels, hinput, hb]
      exact goesAsFar_stringBody h
    · exact absurd h unexpected_ne_ok

theorem goesAsFar_readString? (levels : Nat) : GoesAsFar readString? (skipLevels levels) := by
  intro input s rest h
  rw [readString?] at h
  split at h
  · cases h
  · next b more hinput =>
    split at h
    · next hb =>
      obtain ⟨left, hword, h⟩ := exists_of_bind_eq_ok h
      cases h
      rw [skipLevels, hinput, hb]
      exact hword
    · obtain ⟨⟨s', left⟩, hstring, h⟩ := exists_of_bind_eq_ok h
      cases h
      rw [← Outline.skipLevels_skipSpace, hinput]
      exact goesAsFar_readString levels hstring

/-! ### After a comma -/

theorem exists_of_nextName_comma {b : UInt8} {more start : Bytes}
    (h : nextName false (b :: more) = .ok start) :
    b = ascii ',' ∧ ∃ before : Blanks, more = before.1 ++ ascii '"' :: start := by
  rw [nextName, if_neg Bool.false_ne_true] at h
  split at h
  · next hcomma =>
    split at h
    · cases h
    · next c left hmore =>
      split at h
      · next hquote =>
        cases h
        rw [hquote] at hmore
        exact ⟨hcomma, exists_blanks_of_skipSpace hmore⟩
      · split at h
        · cases h
        · cases h
  · cases h

theorem exists_of_nextItem_comma {b : UInt8} {more start : Bytes}
    (h : nextItem false (b :: more) = .ok start) :
    b = ascii ',' ∧ ∃ before : Blanks, more = before.1 ++ start := by
  rw [nextItem, if_neg Bool.false_ne_true] at h
  split at h
  · next hcomma =>
    split at h
    · cases h
    · next c left hmore =>
      split at h
      · cases h
      · cases h
        exact ⟨hcomma, exists_blanks_of_skipSpace hmore⟩
  · cases h

/-- Blanks behind blanks are blanks. -/
theorem exists_append_blanks (first second : Blanks) (input : Bytes) :
    ∃ blanks : Blanks, first.1 ++ (second.1 ++ input) = blanks.1 ++ input :=
  ⟨⟨first.1 ++ second.1, List.forall_mem_append.2 ⟨first.2, second.2⟩⟩,
    (List.append_assoc _ _ _).symm⟩

namespace Record

variable {σ : Type} {R : Record σ} {depth : Nat}

theorem takesValues_field {α : Type} {name : String} {required : Bool} {get : σ → Option α}
    {set : σ → α → σ} {reader : Nat → Bytes → Except Stop (α × Bytes)}
    (h : TakesValues (reader depth)) (s : σ) :
    TakesValues ((field name required get set reader).read depth s) := by
  intro input s' rest hread
  obtain ⟨⟨a, left⟩, hreader, hset⟩ := exists_of_bind_eq_ok hread
  cases hset
  exact h hreader

/-! ### Nothing else is taken -/

/-- After a member comes the brace, or a comma and the next name. -/
theorem readMembers_cases {steps : Nat} {s s' : σ} {input rest : Bytes}
    (h : R.readMembers depth steps false s input = .ok (s', rest)) :
    (∃ after : Blanks, input = after.1 ++ ascii '\x7d' :: rest) ∨
      ∃ (after before : Blanks) (start : Bytes) (k : Nat),
        input = after.1 ++ ascii ',' :: (before.1 ++ ascii '"' :: start) ∧ k < steps ∧
          R.membersFrom depth k s start = .ok (s', rest) := by
  cases steps with
  | zero => cases h
  | succ steps =>
    rw [readMembers] at h
    split at h
    · cases h
    · next b more hinput =>
      obtain ⟨after, rfl⟩ := exists_blanks_of_skipSpace hinput
      split at h
      · next hb =>
        split at h
        · cases h
        · cases h
          exact .inl ⟨after, by rw [hb]⟩
      · obtain ⟨start, hnext, hmembers⟩ := exists_of_bind_eq_ok h
        obtain ⟨rfl, before, rfl⟩ := exists_of_nextName_comma hnext
        exact .inr ⟨after, before, start, steps, rfl, Nat.lt_succ_self steps, hmembers⟩

/-- A member is a name with a value, and the members behind it are read on. -/
theorem exists_of_membersFrom (hvalues : ∀ f ∈ R.fields, ∀ s, TakesValues (f.read depth s))
    {steps : Nat} {s s' : σ} {start rest : Bytes}
    (h : R.membersFrom depth steps s start = .ok (s', rest)) (blanks : Blanks) :
    ∃ (name : Name) (before : Blanks) (v : Outline .value) (left : Bytes) (s₁ : σ),
      blanks.1 ++ ascii '"' :: start = name.text ++ (before.1 ++ (v.text ++ left)) ∧
        R.readMembers depth steps false s₁ left = .ok (s', rest) := by
  obtain ⟨⟨n, left⟩, hname, hmember⟩ := exists_of_bind_eq_ok h
  obtain ⟨marks, rfl⟩ := exists_spelled_of_skipString (goesAsFar_stringBody hname)
  dsimp only at hmember
  split at hmember
  · obtain ⟨left₁, hcolon, hvalue⟩ := exists_of_bind_eq_ok hmember
    obtain ⟨left₂, hskip, hmore⟩ := exists_of_bind_eq_ok hvalue
    obtain ⟨after, rfl⟩ := exists_blanks_of_colon hcolon
    obtain ⟨before, v, rfl⟩ := passesValues_skipLevels _ hskip
    refine ⟨⟨blanks, marks, after⟩, before, v, left₂, s, ?_, hmore⟩
    simp only [Name.text, List.append_assoc, List.cons_append, List.nil_append]
  · next f hfield =>
    split at hmember
    · cases hmember
    · obtain ⟨left₁, hcolon, hvalue⟩ := exists_of_bind_eq_ok hmember
      obtain ⟨⟨s₁, left₂⟩, hread, hmore⟩ := exists_of_bind_eq_ok hvalue
      obtain ⟨after, rfl⟩ := exists_blanks_of_colon hcolon
      obtain ⟨before, v, rfl⟩ := hvalues f (List.mem_of_find?_eq_some hfield) s hread
      refine ⟨⟨blanks, marks, after⟩, before, v, left₂, s₁, ?_, hmore⟩
      simp only [Name.text, List.append_assoc, List.cons_append, List.nil_append]

theorem exists_members_of_membersFrom
    (hvalues : ∀ f ∈ R.fields, ∀ s, TakesValues (f.read depth s)) {steps : Nat} {s s' : σ}
    {start rest : Bytes} (h : R.membersFrom depth steps s start = .ok (s', rest))
    (blanks : Blanks) :
    ∃ members : Outline .members, blanks.1 ++ ascii '"' :: start = members.text ++ rest := by
  induction steps using Nat.strongRecOn generalizing s start blanks with
  | ind steps ih =>
    obtain ⟨name, before, v, left, s₁, hstart, hleft⟩ := exists_of_membersFrom hvalues h blanks
    rw [hstart]
    rcases readMembers_cases hleft with ⟨after, rfl⟩ | ⟨after, before', start', k, rfl, hk, hmore⟩
    · refine ⟨.lastMember name before v after, ?_⟩
      simp only [Outline.text, List.append_assoc, List.singleton_append]
    · obtain ⟨members, hmembers⟩ := ih k hk hmore before'
      refine ⟨.member name before v after members, ?_⟩
      rw [hmembers]
      simp only [Outline.text, List.append_assoc, List.cons_append]

theorem exists_blanks_of_closeArray {input rest : Bytes} (h : closeArray input = .ok rest) :
    ∃ blanks : Blanks, input = blanks.1 ++ ascii ']' :: rest := by
  cases hinput : skipSpace input with
  | nil =>
    rw [closeArray, hinput] at h
    cases h
  | cons b more =>
    by_cases hb : b = ascii ']'
    · rw [closeArray, hinput] at h
      dsimp only at h
      rw [if_pos hb] at h
      cases h
      rw [hb] at hinput
      exact exists_blanks_of_skipSpace hinput
    · have hnone := toOption_closeArray_of_ne hinput hb
      rw [h] at hnone
      cases hnone

theorem eq_rest_of_readValues {fs : List (Field σ)} {index : Nat} {s s' : σ} {blanks : Blanks}
    {more rest : Bytes}
    (h : R.readValues depth fs index s (blanks.1 ++ ascii ']' :: more) = .ok (s', rest)) :
    more = rest := by
  have hclose : (R.readValues depth fs index s (blanks.1 ++ ascii ']' :: more)).toOption =
      (fill? (fun _ _ _ => none) fs [] s).map fun s => (s, more) :=
    readValues_close fs index s blanks more
  rw [h] at hclose
  obtain ⟨s₁, -, hsame⟩ := Option.map_eq_some_iff.1 hclose.symm
  exact congrArg Prod.snd hsame

theorem exists_items_of_readValues (fs : List (Field σ))
    (hvalues : ∀ f ∈ fs, ∀ s, TakesValues (f.read depth s)) {index : Nat} (hindex : index ≠ 0)
    {s s' : σ} {input rest : Bytes} (h : R.readValues depth fs index s input = .ok (s', rest))
    (before : Blanks) (v : Outline .value) :
    ∃ items : Outline .items, before.1 ++ (v.text ++ input) = items.text ++ rest := by
  induction fs generalizing index s input before v with
  | nil =>
    obtain ⟨left, hclose, hdone⟩ := exists_of_bind_eq_ok h
    cases hdone
    obtain ⟨after, rfl⟩ := exists_blanks_of_closeArray hclose
    refine ⟨.lastItem before v after, ?_⟩
    simp only [Outline.text, List.append_assoc, List.singleton_append]
  | cons f fs ih =>
    obtain ⟨hf, hfs⟩ := List.forall_mem_cons.1 hvalues
    cases hinput : skipSpace input with
    | nil =>
      rw [readValues, hinput] at h
      cases h
    | cons b more =>
      obtain ⟨after, rfl⟩ := exists_blanks_of_skipSpace hinput
      by_cases hb : b = ascii ']'
      · subst hb
        obtain rfl := eq_rest_of_readValues h
        refine ⟨.lastItem before v after, ?_⟩
        simp only [Outline.text, List.append_assoc, List.singleton_append]
      · rw [readValues_next hinput hb, decide_eq_false hindex] at h
        obtain ⟨start, hnext, hvalue⟩ := exists_of_bind_eq_ok h
        obtain ⟨⟨s₁, left⟩, hread, hmore⟩ := exists_of_bind_eq_ok hvalue
        obtain ⟨before', v', rfl⟩ := hf s hread
        obtain ⟨rfl, between, rfl⟩ := exists_of_nextItem_comma hnext
        obtain ⟨before'', hbefore⟩ := exists_append_blanks between before' (v'.text ++ left)
        obtain ⟨items, hitems⟩ := ih hfs (Nat.succ_ne_zero index) hmore before'' v'
        refine ⟨.item before v after items, ?_⟩
        rw [hbefore, hitems]
        simp only [Outline.text, List.append_assoc, List.cons_append]

theorem exists_array_of_readValues {fs : List (Field σ)}
    (hvalues : ∀ f ∈ fs, ∀ s, TakesValues (f.read depth s)) {s s' : σ} {input rest : Bytes}
    (h : R.readValues depth fs 0 s input = .ok (s', rest)) :
    ∃ o : Outline .value, ascii '[' :: input = o.text ++ rest := by
  have hempty : ∀ blanks : Blanks, ∃ o : Outline .value,
      ascii '[' :: (blanks.1 ++ ascii ']' :: rest) = o.text ++ rest := by
    intro blanks
    refine ⟨.emptyArray blanks, ?_⟩
    simp only [Outline.text, List.append_assoc, List.cons_append, List.nil_append]
  cases fs with
  | nil =>
    obtain ⟨left, hclose, hdone⟩ := exists_of_bind_eq_ok h
    cases hdone
    obtain ⟨blanks, rfl⟩ := exists_blanks_of_closeArray hclose
    exact hempty blanks
  | cons f fs =>
    obtain ⟨hf, hfs⟩ := List.forall_mem_cons.1 hvalues
    cases hinput : skipSpace input with
    | nil =>
      rw [readValues, hinput] at h
      cases h
    | cons b more =>
      obtain ⟨blanks, rfl⟩ := exists_blanks_of_skipSpace hinput
      by_cases hb : b = ascii ']'
      · subst hb
        obtain rfl := eq_rest_of_readValues h
        exact hempty blanks
      · rw [readValues_next hinput hb] at h
        obtain ⟨start, hnext, hvalue⟩ := exists_of_bind_eq_ok h
        cases hnext
        obtain ⟨⟨s₁, left⟩, hread, hmore⟩ := exists_of_bind_eq_ok hvalue
        obtain ⟨before, v, hvalue⟩ := hf s hread
        obtain ⟨before', hbefore⟩ := exists_append_blanks blanks before (v.text ++ left)
        obtain ⟨items, hitems⟩ := exists_items_of_readValues fs hfs Nat.one_ne_zero hmore before' v
        refine ⟨.array items, ?_⟩
        rw [hvalue, hbefore, hitems]
        rfl

theorem exists_object_of_readMembers
    (hvalues : ∀ f ∈ R.fields, ∀ s, TakesValues (f.read depth s)) {steps : Nat} {s s' : σ}
    {input rest : Bytes} (h : R.readMembers depth steps true s input = .ok (s', rest)) :
    ∃ o : Outline .value, ascii '\x7b' :: input = o.text ++ rest := by
  cases steps with
  | zero => cases h
  | succ steps =>
    cases hinput : skipSpace input with
    | nil =>
      rw [readMembers, hinput] at h
      cases h
    | cons b more =>
      obtain ⟨blanks, rfl⟩ := exists_blanks_of_skipSpace hinput
      by_cases hb : b = ascii '\x7d'
      · subst hb
        have hclose : (R.readMembers depth (steps + 1) true s
            (blanks.1 ++ ascii '\x7d' :: more)).toOption = (R.finish? s).map fun s => (s, more) :=
          readMembers_close (Nat.succ_pos steps) true blanks more
        rw [h] at hclose
        obtain ⟨s₁, -, hsame⟩ := Option.map_eq_some_iff.1 hclose.symm
        obtain rfl : more = rest := congrArg Prod.snd hsame
        refine ⟨.emptyObject blanks, ?_⟩
        simp only [Outline.text, List.append_assoc, List.cons_append, List.nil_append]
      · rw [readMembers_next hinput hb] at h
        obtain ⟨start, hnext, hmembers⟩ := exists_of_bind_eq_ok h
        rw [nextName, if_pos rfl] at hnext
        split at hnext
        · next hquote =>
          cases hnext
          obtain ⟨members, htext⟩ := exists_members_of_membersFrom hvalues hmembers blanks
          refine ⟨.object members, ?_⟩
          rw [hquote, htext]
          rfl
        · cases hnext

/-- **Where a record is read there is a value.** -/
theorem takesValues_read (hvalues : ∀ f ∈ R.fields, ∀ s, TakesValues (f.read depth s)) :
    TakesValues (R.read (depth + 1)) := by
  intro input s rest h
  rw [read] at h
  split at h
  · cases h
  · next b more hinput =>
    obtain ⟨before, rfl⟩ := exists_blanks_of_skipSpace hinput
    suffices hvalue : ∃ o : Outline .value, b :: more = o.text ++ rest by
      obtain ⟨o, ho⟩ := hvalue
      exact ⟨before, o, by rw [ho]⟩
    split at h
    · next hb =>
      rw [hb]
      exact exists_array_of_readValues hvalues h
    · split at h
      · next hb =>
        rw [hb]
        exact exists_object_of_readMembers hvalues h
      · exact absurd h unexpected_ne_ok

end Record

end NetDelegate.Json
