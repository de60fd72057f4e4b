/-
  NetDelegate/Proofs/Json/Positional.lean
  =======================================
  **Records that are written as arrays.**  The items of an array are the values of the fields in
  their order; fields may lack at its end if the text need not have them, and no item may be left
  over (`Record.fill?`).  Reading a record at an array is filling the fields, in any layout
  (`Record.isReadBy_read_array`).
-/
import NetDelegate.Proofs.Json.Record

namespace NetDelegate.Json.Record

/-! ### The closing bracket -/

theorem closeArray_close (blanks : Blanks) (rest : Bytes) :
    closeArray (blanks.1 ++ ascii ']' :: rest) = .ok rest := by
  rw [closeArray, skipSpace_blanks_cons blanks (by decide)]
  rfl

theorem toOption_closeArray_of_ne {input rest : Bytes} {b : UInt8}
    (hinput : skipSpace input = b :: rest) (hb : b ≠ ascii ']') :
    (closeArray input).toOption = none := by
  rw [closeArray, hinput]
  dsimp only
  rw [if_neg hb]
  split
  · split
    · rfl
    · rfl
  · rfl

/-! ### Values in order -/

variable {σ : Type}

/-- Gives the fields their values in order, where `m` says what the value of a field comes to. -/
def fill? (m : String → σ → Outline .value → Option σ) :
    List (Field σ) → List (Outline .value) → σ → Option σ
  | [], [], s => some s
  | [], _ :: _, _ => none
  | f :: fs, [], s => if f.required then none else fill? m fs [] s
  | f :: fs, v :: vs, s => (m f.name s v).bind (fill? m fs vs)

/-- Reads the value of a field, and what is left of the array behind it. -/
def valuesFrom (R : Record σ) (depth : Nat) (f : Field σ) (fs : List (Field σ)) (index : Nat) (s : σ)
    (input : Bytes) : Except Stop (σ × Bytes) := do
  let (s, rest) ← f.read depth s input
  readValues R depth fs (index + 1) s rest

/-- The fields are read as `m` says. -/
def ReadsAs (R : Record σ) (depth : Nat) (m : String → σ → Outline .value → Option σ) : Prop :=
  ∀ f ∈ R.fields, ∀ s (v : Outline .value), v.IsReadBy (f.read depth s) (m f.name s v)

variable {R : Record σ} {depth : Nat} {m : String → σ → Outline .value → Option σ}

theorem readValues_close (fs : List (Field σ)) (index : Nat) (s : σ) (blanks : Blanks)
    (rest : Bytes) :
    (R.readValues depth fs index s (blanks.1 ++ ascii ']' :: rest)).toOption =
      (fill? m fs [] s).map fun s => (s, rest) := by
  induction fs generalizing index with
  | nil =>
    rw [readValues, closeArray_close]
    rfl
  | cons f fs ih =>
    rw [readValues, skipSpace_blanks_cons blanks (by decide), fill?]
    dsimp only
    rw [if_pos rfl]
    split
    · rfl
    · exact ih (index + 1)

theorem readValues_next {input rest : Bytes} {b : UInt8} (hinput : skipSpace input = b :: rest)
    (hb : b ≠ ascii ']') (f : Field σ) (fs : List (Field σ)) (index : Nat) (s : σ) :
    R.readValues depth (f :: fs) index s input =
      (nextItem (index = 0) (b :: rest) >>= R.valuesFrom depth f fs index s) := by
  rw [readValues, hinput]
  exact if_neg hb

theorem read_values : (items : Outline .items) → (f : Field σ) → (fs : List (Field σ)) →
    (∀ g ∈ f :: fs, ∀ s, ∀ v ∈ items.inner, v.IsReadBy (g.read depth s) (m g.name s v)) →
    ∀ (index : Nat) (s : σ) (rest : Bytes),
      (R.valuesFrom depth f fs index s (skipSpace (items.text ++ rest))).toOption =
        (fill? m (f :: fs) items.inner s).map fun s => (s, rest)
  | .lastItem before v after, f, fs, hread, index, s, rest => by
    have hv := (hread f List.mem_cons_self s v (List.mem_singleton_self v)).bare
      (ends_blanks after (b := ascii ']') (by decide) rest)
    simp only [Outline.text, List.append_assoc, List.singleton_append, v.skipSpace_text]
    rw [valuesFrom, toOption_bind, hv, Outline.inner, fill?]
    cases m f.name s v with
    | none => rfl
    | some s => exact readValues_close fs (index + 1) s after rest
  | .item before v after more, f, fs, hread, index, s, rest => by
    have hv := (hread f List.mem_cons_self s v List.mem_cons_self).bare
      (ends_blanks after (b := ascii ',') (by decide) (more.text ++ rest))
    have hcomma : skipSpace (after.1 ++ ascii ',' :: (more.text ++ rest)) =
        ascii ',' :: (more.text ++ rest) := skipSpace_blanks_cons after (by decide) _
    obtain ⟨b, left, hhead, hb⟩ := Outline.exists_skipSpace_items more rest
    have hclose : b ≠ ascii ']' := by
      rintro rfl
      exact absurd hb (by decide)
    simp only [Outline.text, List.append_assoc, List.cons_append, v.skipSpace_text]
    rw [valuesFrom, toOption_bind, hv, Outline.inner, fill?]
    cases m f.name s v with
    | none => rfl
    | some s =>
      change (R.readValues depth fs (index + 1) s _).toOption = (fill? m fs more.inner s).map _
      cases fs with
      | nil =>
        obtain ⟨w, ws, hinner⟩ : ∃ w ws, more.inner = w :: ws := by
          cases more with
          | lastItem _ w _ => exact ⟨w, [], rfl⟩
          | item _ w _ rest => exact ⟨w, rest.inner, rfl⟩
        have hnone := toOption_closeArray_of_ne hcomma (by decide)
        rw [readValues, toOption_bind, hnone, hinner]
        rfl
      | cons g gs =>
        rw [readValues_next hcomma (by decide)]
        change (nextItem false _ >>= _).toOption = _
        rw [nextItem_comma hhead hclose, ← hhead]
        exact read_values more g gs (fun h hh s w hw => hread h (List.mem_cons_of_mem f hh) s w
          (List.mem_cons_of_mem v hw)) (index + 1) s rest

/-! ### Arrays and empty texts -/

/-- **Reading a record at an array** is filling the fields. -/
theorem isReadBy_read_array (hread : R.ReadsAs depth m) (items : Outline .items) :
    (Outline.array items).IsReadBy (R.read (depth + 1)) (fill? m R.fields items.inner R.initial) := by
  intro before rest hrest
  obtain ⟨b, left, hhead, hb⟩ := Outline.exists_skipSpace_items items rest
  have hclose : b ≠ ascii ']' := by
    rintro rfl
    exact absurd hb (by decide)
  rw [read, Outline.skipSpace_text]
  change (R.readValues depth R.fields 0 R.initial (items.text ++ rest)).toOption = _
  unfold ReadsAs at hread
  generalize R.fields = fields at hread
  cases fields with
  | nil =>
    obtain ⟨w, ws, hinner⟩ : ∃ w ws, items.inner = w :: ws := by
      cases items with
      | lastItem _ w _ => exact ⟨w, [], rfl⟩
      | item _ w _ rest => exact ⟨w, rest.inner, rfl⟩
    rw [readValues, toOption_bind, toOption_closeArray_of_ne hhead hclose, hinner]
    rfl
  | cons f fs =>
    rw [readValues_next hhead hclose]
    change (R.valuesFrom depth f fs 0 R.initial (b :: left)).toOption = _
    rw [← hhead]
    exact read_values items f fs (fun g hg s v _ => hread g hg s v) 0 R.initial rest

theorem isReadBy_read_emptyArray (blanks : Blanks) :
    (Outline.emptyArray blanks).IsReadBy (R.read (depth + 1)) (fill? m R.fields [] R.initial) := by
  intro before rest hrest
  rw [read, Outline.skipSpace_text, Outline.text, List.cons_append, List.append_assoc,
    List.singleton_append]
  exact readValues_close R.fields 0 R.initial blanks rest

theorem isReadBy_read_emptyObject (blanks : Blanks) :
    (Outline.emptyObject blanks).IsReadBy (R.read (depth + 1)) (R.finish? R.initial) := by
  intro before rest hrest
  rw [read, Outline.skipSpace_text, Outline.text, List.cons_append, List.append_assoc,
    List.singleton_append]
  exact readMembers_close (Nat.succ_pos _) true blanks rest

end NetDelegate.Json.Record
