/-
  NetDelegate/Proofs/Json/Record.lean
  ===================================
  **What a record comes to.**  The members of an object are taken one after the other: a name that
  is no field changes nothing, whatever its value; a field that has been read already is refused
  (`Record.take?`).  Reading a record is taking all members, in any layout, and looking for fields
  that lack (`Record.isReadBy_read`).
-/
import NetDelegate.Json.Record
import NetDelegate.Proofs.Json.Reading

namespace NetDelegate.Json

/-- The names and values of members, in order. -/
def Outline.entries : {kind : Kind} → Outline kind → List (List Mark × Outline .value)
  | _, null | _, bool _ | _, number .. | _, string _ | _, emptyArray _ | _, array _
  | _, emptyObject _ | _, object _ | _, lastItem .. | _, item .. => []
  | _, lastMember name _ v _ => [(name.marks, v)]
  | _, member name _ v _ rest => (name.marks, v) :: rest.entries

namespace Record

variable {σ : Type} (R : Record σ)

/-- The field of a name. -/
def field? (name : String) : Option (Field σ) := R.fields.find? fun f => f.name = name

/-- Takes one member, where `m` says what the value of a field comes to. -/
def take? (m : Field σ → σ → Outline .value → Option σ) (s : σ)
    (entry : List Mark × Outline .value) : Option σ :=
  (textOf? entry.1).bind fun name =>
    match R.field? name with
    | none => some s
    | some f => if f.isSet s then none else m f s entry.2

/-- Ends the record, if no field lacks. -/
def finish? (s : σ) : Option σ := if R.missing? s = none then some s else none

/-! ### Steps of the reader -/

/-- Reads a member after the quote of its name, and what is left of the object behind it. -/
def membersFrom (depth steps : Nat) (s : σ) (input : Bytes) : Except Stop (σ × Bytes) := do
  let (name, rest) ← stringBody input
  match R.fields.find? fun f => f.name = name with
  | none => do
    let rest ← colon rest
    let rest ← skipValue rest
    readMembers R depth steps false s rest
  | some f =>
    if f.isSet s then stopBefore (.duplicateField name) (afterClose '\x7d' rest)
    else do
      let rest ← colon rest
      let (s, rest) ← f.read depth s rest
      readMembers R depth steps false s rest

variable {R} {depth : Nat} {s : σ}

theorem readMembers_close {steps : Nat} (hsteps : 0 < steps) (first : Bool) (blanks : Blanks)
    (rest : Bytes) :
    (R.readMembers depth steps first s (blanks.1 ++ ascii '\x7d' :: rest)).toOption =
      (R.finish? s).map fun s => (s, rest) := by
  obtain ⟨steps, rfl⟩ := Nat.exists_eq_succ_of_ne_zero (Nat.ne_of_gt hsteps)
  rw [readMembers, skipSpace_blanks_cons blanks (by decide), finish?]
  cases R.missing? s with
  | none => rfl
  | some name => rfl

theorem readMembers_next {input rest : Bytes} {b : UInt8} (hinput : skipSpace input = b :: rest)
    (hb : b ≠ ascii '\x7d') (steps : Nat) (first : Bool) :
    R.readMembers depth (steps + 1) first s input =
      (nextName first (b :: rest) >>= R.membersFrom depth steps s) := by
  rw [readMembers, hinput]
  exact if_neg hb

/-- The values of fields are read as `m` says. -/
def ReadsEntry (R : Record σ) (depth : Nat) (m : Field σ → σ → Outline .value → Option σ)
    (entry : List Mark × Outline .value) : Prop :=
  ∀ name f, textOf? entry.1 = some name → R.field? name = some f →
    ∀ s, entry.2.IsReadBy (f.read depth s) (m f s entry.2)

variable {m : Field σ → σ → Outline .value → Option σ}

theorem skipValue_text (v : Outline .value) (before : Blanks) {rest : Bytes} (hrest : Ends rest) :
    skipValue (before.1 ++ (v.text ++ rest)) = .ok rest := by
  apply v.isSkippedBy_skipLevels _ before hrest
  have hlength := v.levels_le_length
  rw [List.length_append, List.length_append]
  omega

/-- Reading a member is taking it. -/
theorem toOption_membersFrom {name : Name} {v : Outline .value}
    (hentry : R.ReadsEntry depth m (name.marks, v)) (steps : Nat) (before : Blanks) {rest : Bytes}
    (hrest : Ends rest) :
    (R.membersFrom depth steps s (spelled name.marks ++ ascii '"' ::
        (name.after.1 ++ ascii ':' :: (before.1 ++ (v.text ++ rest))))).toOption =
      (R.take? m s (name.marks, v)).bind fun s =>
        (R.readMembers depth steps false s rest).toOption := by
  rw [membersFrom, toOption_bind, toOption_stringBody, take?]
  cases htext : textOf? name.marks with
  | none => rfl
  | some n =>
    simp only [Option.map_some, Option.bind_some]
    change (match R.field? n with
      | none => _
      | some f => _ : Except Stop (σ × Bytes)).toOption = _
    cases hfield : R.field? n with
    | none =>
      dsimp only
      rw [colon_append]
      change (skipValue _ >>= _).toOption = _
      rw [skipValue_text v before hrest]
      rfl
    | some f =>
      dsimp only
      split
      · rfl
      · rw [colon_append]
        change (f.read depth s _ >>= fun p => _).toOption = _
        rw [toOption_bind, hentry n f htext hfield s before hrest]
        cases m f s v with
        | none => rfl
        | some s' => rfl

/-- Takes members one after the other. -/
def absorb? (R : Record σ) (m : Field σ → σ → Outline .value → Option σ) (s : σ)
    (members : Outline .members) : Option σ :=
  members.entries.foldlM (R.take? m) s

theorem read_members : (members : Outline .members) →
    (∀ entry ∈ members.entries, R.ReadsEntry depth m entry) →
    ∀ {steps : Nat}, members.text.length ≤ steps → ∀ (s : σ) {rest start : Bytes},
      skipSpace (members.text ++ rest) = ascii '"' :: start →
      (R.membersFrom depth steps s start).toOption =
        ((R.absorb? m s members).bind R.finish?).map fun s => (s, rest)
  | .lastMember name before v after, hread, steps, hsteps, s, rest, start, hstart => by
    have hpos : 0 < steps := by
      simp only [Outline.text, List.length_append, List.length_singleton] at hsteps
      omega
    have hv := hread (name.marks, v) (List.mem_singleton_self _)
    have hends := ends_blanks after (b := ascii '\x7d') (by decide) rest
    simp only [Outline.text, List.append_assoc, List.singleton_append,
      name.skipSpace_text] at hstart
    rw [← (List.cons.inj hstart).2, toOption_membersFrom hv steps before hends, absorb?,
      Outline.entries, List.foldlM_cons]
    cases R.take? m s (name.marks, v) with
    | none => rfl
    | some s => exact readMembers_close hpos false after rest
  | .member name before v after more, hread, steps, hsteps, s, rest, start, hstart => by
    simp only [Outline.text, List.length_append, List.length_cons] at hsteps
    obtain ⟨steps, rfl⟩ : ∃ k, steps = k + 1 := ⟨steps - 1, by omega⟩
    have hv := hread (name.marks, v) List.mem_cons_self
    have hends := ends_blanks after (b := ascii ',') (by decide) (more.text ++ rest)
    have hmore : ∀ entry ∈ more.entries, R.ReadsEntry depth m entry := by
      intro entry hentry
      exact hread entry (List.mem_cons_of_mem _ hentry)
    have hcomma : skipSpace (after.1 ++ ascii ',' :: (more.text ++ rest)) =
        ascii ',' :: (more.text ++ rest) := skipSpace_blanks_cons after (by decide) _
    obtain ⟨left, hhead⟩ := Outline.exists_skipSpace_members more rest
    have hleft : more.text.length ≤ steps := by omega
    simp only [Outline.text, List.append_assoc, List.cons_append, name.skipSpace_text] at hstart
    rw [← (List.cons.inj hstart).2, toOption_membersFrom hv (steps + 1) before hends, absorb?,
      Outline.entries, List.foldlM_cons]
    cases R.take? m s (name.marks, v) with
    | none => rfl
    | some s =>
      change (R.readMembers depth (steps + 1) false s _).toOption = _
      rw [readMembers_next hcomma (by decide), nextName_comma hhead]
      exact read_members more hmore hleft s hhead

/-- **Reading a record** is taking the members of the object, if no field lacks in the end. -/
theorem isReadBy_read (members : Outline .members)
    (hread : ∀ entry ∈ members.entries, R.ReadsEntry depth m entry) :
    (Outline.object members).IsReadBy (R.read (depth + 1))
      ((R.absorb? m R.initial members).bind R.finish?) := by
  intro before rest hrest
  obtain ⟨start, hhead⟩ := Outline.exists_skipSpace_members members rest
  have hsteps : members.text.length ≤ (members.text ++ rest).length := by
    rw [List.length_append]
    exact Nat.le_add_right _ _
  rw [read, Outline.skipSpace_text]
  change (R.readMembers depth ((members.text ++ rest).length + 1) true R.initial
    (members.text ++ rest)).toOption = _
  rw [readMembers_next hhead (by decide)]
  exact read_members members hread hsteps R.initial hhead

/-- The record of a whole text. -/
theorem toOption_parse {depth : Nat} (hdepth : maxDepth = depth + 1) (before : Blanks)
    (members : Outline .members) (after : Blanks)
    (hread : ∀ entry ∈ members.entries, R.ReadsEntry depth m entry) :
    (R.parse (before.1 ++ ((Outline.object members).text ++ after.1))).toOption =
      (R.absorb? m R.initial members).bind R.finish? := by
  have hobject := isReadBy_read members hread before (ends_of_blanks after)
  rw [parse, hdepth, toOption_readAll, hobject]
  cases (R.absorb? m R.initial members).bind R.finish? with
  | none => rfl
  | some s =>
    change (if skipSpace after.1 = [] then some s else none) = some s
    rw [if_pos (skipSpace_of_blanks after)]

/-- A field comes to what its reader comes to. -/
theorem isReadBy_field {α : Type} {name : String} {required : Bool} {get : σ → Option α}
    {set : σ → α → σ} {reader : Nat → Bytes → Except Stop (α × Bytes)} {v : Outline .value}
    {a : Option α} (h : v.IsReadBy (reader depth) a) (s : σ) :
    v.IsReadBy ((field name required get set reader).read depth s) (a.map (set s)) := by
  intro before rest hrest
  change (reader depth _ >>= fun p => .ok (set s p.1, p.2)).toOption = _
  rw [Outline.toOption_bind_ok (set s), h before hrest, Option.map_map, Option.map_map]
  rfl

end Record

/-! ### Values of fields -/

theorem readString?_text (marks : List Mark) :
    (Outline.string marks).IsReadBy readString? ((textOf? marks).map some) := by
  intro before rest hrest
  rw [readString?, Outline.skipSpace_text]
  change (readString (ascii '"' :: (spelled marks ++ [ascii '"'] ++ rest)) >>= fun p =>
    .ok (some p.1, p.2)).toOption = _
  rw [Outline.toOption_bind_ok some, List.append_assoc]
  change Option.map _ (stringBody (spelled marks ++ ascii '"' :: rest)).toOption = _
  rw [toOption_stringBody, Option.map_map, Option.map_map]
  rfl

theorem readBool_text (b : Bool) : (Outline.bool b).IsReadBy readBool (some b) := by
  intro before rest hrest
  rw [readBool, Outline.skipSpace_text]
  cases b with
  | true =>
    change (literal ['r', 'u', 'e'] (['r', 'u', 'e'].map ascii ++ rest) >>= _).toOption = _
    rw [literal_append]
    rfl
  | false =>
    change (literal ['a', 'l', 's', 'e'] (['a', 'l', 's', 'e'].map ascii ++ rest) >>= _).toOption = _
    rw [literal_append]
    rfl

end NetDelegate.Json
