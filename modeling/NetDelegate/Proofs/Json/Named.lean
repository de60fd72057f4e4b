/-
  NetDelegate/Proofs/Json/Named.lean
  ==================================
  **What a record is read from.**  A value lists names with values: an object its members, an array
  the values of the fields in their order (`Record.Lists`).  A record is read from a text just when
  the text is such a value, the named values can be taken one after the other, and no field lacks
  (`Record.parse_eq_ok_iff`).
-/
import Mathlib.Data.List.Nodup
import NetDelegate.Proofs.Json.TakesValues

namespace NetDelegate.Json.Record

variable {σ : Type} {R : Record σ} {depth : Nat}

/-! ### Named values -/

/-- Takes one named value, where `m` says what the value of a field comes to. -/
def takeNamed? (R : Record σ) (m : String → σ → Outline .value → Option σ) (s : σ)
    (p : String × Outline .value) : Option σ :=
  match R.field? p.1 with
  | none => some s
  | some f => if f.isSet s then none else m f.name s p.2

/-- The value lists the named values: it is an object with these members, or an array of them
    under the names of the fields. -/
inductive Lists (R : Record σ) : Outline .value → List (String × Outline .value) → Prop
  | emptyObject (blanks : Blanks) : Lists R (.emptyObject blanks) []
  | object {members : Outline .members} {pairs : List (String × Outline .value)}
      (h : List.Forall₂ (fun entry p => textOf? entry.1 = some p.1 ∧ entry.2 = p.2)
        members.entries pairs) : Lists R (.object members) pairs
  | emptyArray (blanks : Blanks) : Lists R (.emptyArray blanks) []
  | array {items : Outline .items} (h : items.inner.length ≤ R.fields.length) :
      Lists R (.array items) ((R.fields.map (·.name)).zip items.inner)

/-- The record comes to `s` at the value. -/
def Gives (R : Record σ) (m : String → σ → Outline .value → Option σ) (o : Outline .value) (s : σ) :
    Prop :=
  ∃ pairs, R.Lists o pairs ∧ pairs.foldlM (R.takeNamed? m) R.initial = some s ∧ R.missing? s = none

/-- The names of the fields are different, and taking a value sets its field and no other. -/
structure IsOrderly (R : Record σ) (m : String → σ → Outline .value → Option σ) : Prop where
  names : (R.fields.map (·.name)).Nodup
  unset : ∀ f ∈ R.fields, f.isSet R.initial = false
  isSet : ∀ f ∈ R.fields, ∀ s v s', m f.name s v = some s' →
    ∀ g ∈ R.fields, g.isSet s' = (decide (g.name = f.name) || g.isSet s)

theorem missing?_eq_none_iff {s : σ} :
    R.missing? s = none ↔ ∀ f ∈ R.fields, f.required = true → f.isSet s = true := by
  simp [missing?]

variable {m : String → σ → Outline .value → Option σ}

theorem foldlM_take?_eq_some_iff {entries : List (List Mark × Outline .value)} {s s' : σ} :
    entries.foldlM (R.take? fun f => m f.name) s = some s' ↔
      ∃ pairs, List.Forall₂ (fun entry p => textOf? entry.1 = some p.1 ∧ entry.2 = p.2)
        entries pairs ∧ pairs.foldlM (R.takeNamed? m) s = some s' := by
  induction entries generalizing s with
  | nil => simp
  | cons entry entries ih =>
    rw [List.foldlM_cons, Option.bind_eq_bind, Option.bind_eq_some_iff]
    constructor
    · rintro ⟨s₁, htake, hfold⟩
      obtain ⟨name, hname, htake⟩ := Option.bind_eq_some_iff.1 htake
      obtain ⟨pairs, hpairs, hnamed⟩ := ih.1 hfold
      refine ⟨(name, entry.2) :: pairs, .cons ⟨hname, rfl⟩ hpairs, ?_⟩
      rw [List.foldlM_cons, Option.bind_eq_bind, Option.bind_eq_some_iff]
      exact ⟨s₁, htake, hnamed⟩
    · rintro ⟨pairs, hpairs, hfold⟩
      cases hpairs with
      | @cons _ p _ pairs hentry hpairs =>
        rw [List.foldlM_cons, Option.bind_eq_bind, Option.bind_eq_some_iff] at hfold
        obtain ⟨s₁, htake, hfold⟩ := hfold
        refine ⟨s₁, ?_, ih.2 ⟨pairs, hpairs, hfold⟩⟩
        rw [take?, hentry.1, hentry.2]
        exact htake

/-- What is set stays set. -/
theorem IsOrderly.isSet_of_foldlM (h : R.IsOrderly m) {pairs : List (String × Outline .value)}
    {s s' : σ} (hfold : pairs.foldlM (R.takeNamed? m) s = some s') {g : Field σ}
    (hg : g ∈ R.fields) (hset : g.isSet s = true) : g.isSet s' = true := by
  induction pairs generalizing s with
  | nil =>
    cases hfold
    exact hset
  | cons p pairs ih =>
    rw [List.foldlM_cons, Option.bind_eq_bind, Option.bind_eq_some_iff] at hfold
    obtain ⟨s₁, htake, hfold⟩ := hfold
    refine ih hfold ?_
    unfold takeNamed? at htake
    split at htake
    · cases htake
      exact hset
    · next f hf =>
      split at htake
      · cases htake
      · rw [h.isSet f (List.mem_of_find?_eq_some hf) s p.2 s₁ htake g hg, hset, Bool.or_true]

theorem IsOrderly.field?_eq (h : R.IsOrderly m) {f : Field σ} (hf : f ∈ R.fields) :
    R.field? f.name = some f := by
  have hisSome : (R.field? f.name).isSome := List.find?_isSome.2 ⟨f, hf, by simp⟩
  obtain ⟨g, hg⟩ := Option.isSome_iff_exists.1 hisSome
  have hname : g.name = f.name := by simpa using List.find?_some hg
  rw [hg, List.inj_on_of_nodup_map h.names (List.mem_of_find?_eq_some hg) hf hname]

/-- Filling fields in order is taking their values under their names, unless there are more
    values than fields or a field lacks that must be there. -/
theorem IsOrderly.fill?_eq_some_iff (h : R.IsOrderly m) {fs : List (Field σ)}
    (hfs : ∀ f ∈ fs, f ∈ R.fields) (hnames : (fs.map (·.name)).Nodup)
    {vs : List (Outline .value)} {s s' : σ} (hunset : ∀ f ∈ fs, f.isSet s = false) :
    fill? m fs vs s = some s' ↔ vs.length ≤ fs.length ∧
      ((fs.map (·.name)).zip vs).foldlM (R.takeNamed? m) s = some s' ∧
      ∀ f ∈ fs, f.required = true → f.isSet s' = true := by
  induction fs generalizing vs s with
  | nil =>
    cases vs with
    | nil => simp [fill?]
    | cons v vs => simp [fill?]
  | cons f fs ih =>
    obtain ⟨hf, hfs⟩ := List.forall_mem_cons.1 hfs
    obtain ⟨hfunset, hfsunset⟩ := List.forall_mem_cons.1 hunset
    rw [List.map_cons, List.nodup_cons] at hnames
    cases vs with
    | nil =>
      -- without a value the field stays unset, so it must not be required
      have hih := @ih hfs hnames.2 [] s hfsunset
      rw [List.zip_nil_right] at hih ⊢
      rw [fill?, List.forall_mem_cons]
      constructor
      · intro hfill
        split at hfill
        · cases hfill
        · next hrequired =>
          obtain ⟨-, hfold, hrest⟩ := hih.1 hfill
          exact ⟨Nat.zero_le _, hfold, fun hreq => absurd hreq hrequired, hrest⟩
      · rintro ⟨-, hfold, hfset, hrest⟩
        have hsame : s = s' := Option.some.inj hfold
        have hrequired : ¬f.required = true := by
          intro hreq
          rw [← hsame, hfunset] at hfset
          exact absurd (hfset hreq) Bool.false_ne_true
        rw [if_neg hrequired]
        exact hih.2 ⟨Nat.zero_le _, hfold, hrest⟩
    | cons v vs =>
      -- the field is unset so far, and taking its value leaves the fields behind it unset
      have htake : R.takeNamed? m s (f.name, v) = m f.name s v := by
        rw [takeNamed?, h.field?_eq hf]
        exact if_neg (by simp [hfunset])
      have hset : ∀ {s₁}, m f.name s v = some s₁ → ∀ g ∈ fs, g.isSet s₁ = false := by
        intro s₁ hm g hg
        have hne : g.name ≠ f.name := by
          intro hname
          exact hnames.1 (hname ▸ List.mem_map_of_mem hg)
        rw [h.isSet f hf s v s₁ hm g (hfs g hg), hfsunset g hg, decide_eq_false hne, Bool.or_false]
      rw [fill?, Option.bind_eq_some_iff, List.map_cons, List.zip_cons_cons, List.foldlM_cons, htake,
        Option.bind_eq_bind, Option.bind_eq_some_iff, List.forall_mem_cons]
      constructor
      · rintro ⟨s₁, hm, hfill⟩
        obtain ⟨hlength, hfold, hrest⟩ := (ih hfs hnames.2 (hset hm)).1 hfill
        have hown : f.isSet s₁ = true := by
          rw [h.isSet f hf s v s₁ hm f hf, decide_eq_true rfl, Bool.true_or]
        exact ⟨Nat.succ_le_succ hlength, ⟨s₁, hm, hfold⟩,
          fun _ => h.isSet_of_foldlM hfold hf hown, hrest⟩
      · rintro ⟨hlength, ⟨s₁, hm, hfold⟩, -, hrest⟩
        exact ⟨s₁, hm, (ih hfs hnames.2 (hset hm)).2
          ⟨Nat.le_of_succ_le_succ hlength, hfold, hrest⟩⟩

/-! ### Whole texts -/

/-- What a record comes to at an array or an object. -/
theorem IsOrderly.exists_isReadBy (h : R.IsOrderly m) (hreads : R.ReadsAs depth m)
    {o : Outline .value} (hsort : o.sort = .array ∨ o.sort = .object) :
    ∃ a, o.IsReadBy (R.read (depth + 1)) a ∧ ∀ s, a = some s ↔ R.Gives m o s := by
  have hfilled : ∀ {vs : List (Outline .value)} {s : σ}, fill? m R.fields vs R.initial = some s ↔
      vs.length ≤ R.fields.length ∧
        ((R.fields.map (·.name)).zip vs).foldlM (R.takeNamed? m) R.initial = some s ∧
        R.missing? s = none := by
    intro vs s
    rw [missing?_eq_none_iff]
    exact h.fill?_eq_some_iff (fun _ hf => hf) h.names h.unset
  cases o with
  | emptyArray blanks =>
    refine ⟨_, isReadBy_read_emptyArray blanks, fun s => hfilled.trans ?_⟩
    rw [List.zip_nil_right]
    constructor
    · rintro ⟨-, hfold, hmissing⟩
      exact ⟨[], .emptyArray blanks, hfold, hmissing⟩
    · rintro ⟨pairs, hlists, hfold, hmissing⟩
      cases hlists
      exact ⟨Nat.zero_le _, hfold, hmissing⟩
  | array items =>
    refine ⟨_, isReadBy_read_array hreads items, fun s => hfilled.trans ?_⟩
    constructor
    · rintro ⟨hlength, hfold, hmissing⟩
      exact ⟨_, .array hlength, hfold, hmissing⟩
    · rintro ⟨pairs, hlists, hfold, hmissing⟩
      cases hlists with
      | array hlength => exact ⟨hlength, hfold, hmissing⟩
  | emptyObject blanks =>
    refine ⟨_, isReadBy_read_emptyObject blanks, fun s => ?_⟩
    rw [finish?]
    constructor
    · intro hfinish
      split at hfinish
      · next hmissing =>
        cases hfinish
        exact ⟨[], .emptyObject blanks, rfl, hmissing⟩
      · cases hfinish
    · rintro ⟨pairs, hlists, hfold, hmissing⟩
      cases hlists
      cases hfold
      exact if_pos hmissing
  | object members =>
    have hentries : ∀ entry ∈ members.entries, R.ReadsEntry depth (fun f => m f.name) entry := by
      intro entry _ name f _ hf s
      exact hreads f (List.mem_of_find?_eq_some hf) s entry.2
    refine ⟨_, isReadBy_read members hentries, fun s => ?_⟩
    rw [Option.bind_eq_some_iff]
    constructor
    · rintro ⟨s₁, habsorb, hfinish⟩
      obtain ⟨pairs, hpairs, hfold⟩ := foldlM_take?_eq_some_iff.1 habsorb
      rw [finish?] at hfinish
      split at hfinish
      · next hmissing =>
        cases hfinish
        exact ⟨pairs, .object hpairs, hfold, hmissing⟩
      · cases hfinish
    · rintro ⟨pairs, hlists, hfold, hmissing⟩
      cases hlists with
      | object hpairs =>
        exact ⟨s, foldlM_take?_eq_some_iff.2 ⟨pairs, hpairs, hfold⟩, if_pos hmissing⟩
  | _ => exact absurd hsort (by simp [Outline.sort])

theorem sort_of_read_eq_ok {o : Outline .value} {before : Blanks} {rest : Bytes}
    {p : σ × Bytes} (h : R.read (depth + 1) (before.1 ++ (o.text ++ rest)) = .ok p) :
    o.sort = .array ∨ o.sort = .object := by
  obtain ⟨b, more, hhead, hb⟩ := o.exists_head_sort rest
  rw [read, o.skipSpace_text, hhead] at h
  dsimp only at h
  split at h
  · next hbracket =>
    rw [hbracket] at hb
    exact .inl (Option.some.inj hb).symm
  · split at h
    · next hbrace =>
      rw [hbrace] at hb
      exact .inr (Option.some.inj hb).symm
    · exact absurd h unexpected_ne_ok

theorem Lists.sort_eq {o : Outline .value} {pairs : List (String × Outline .value)}
    (h : R.Lists o pairs) : o.sort = .array ∨ o.sort = .object := by
  cases h with
  | emptyObject blanks => exact .inr rfl
  | object hpairs => exact .inr rfl
  | emptyArray blanks => exact .inl rfl
  | array hlength => exact .inl rfl

/-- **What a record is read from:** an object or an array, with blanks around it, whose named values
    are taken one after the other. -/
theorem parse_eq_ok_iff (hdepth : maxDepth = depth + 1) (horderly : R.IsOrderly m)
    (hreads : R.ReadsAs depth m) (hvalues : ∀ f ∈ R.fields, ∀ s, TakesValues (f.read depth s))
    {text : Bytes} {s : σ} :
    R.parse text = .ok s ↔ ∃ (before : Blanks) (o : Outline .value) (after : Blanks),
      text = before.1 ++ (o.text ++ after.1) ∧ R.Gives m o s := by
  rw [← toOption_eq_some_iff, parse, hdepth, toOption_readAll, Option.bind_eq_some_iff]
  constructor
  · rintro ⟨⟨s₁, rest⟩, hread, hrest⟩
    rw [toOption_eq_some_iff] at hread
    split at hrest
    · next hblank =>
      cases hrest
      obtain ⟨before, o, rfl⟩ := takesValues_read hvalues hread
      obtain ⟨after, hafter⟩ := exists_blanks rest
      rw [hblank, List.append_nil] at hafter
      subst hafter
      obtain ⟨a, ha, hgives⟩ := horderly.exists_isReadBy hreads (sort_of_read_eq_ok hread)
      have hsome := ha before (ends_of_blanks after)
      rw [hread] at hsome
      obtain ⟨s₂, rfl, hsame⟩ := Option.map_eq_some_iff.1 hsome.symm
      cases hsame
      exact ⟨before, o, after, rfl, (hgives _).1 rfl⟩
    · cases hrest
  · rintro ⟨before, o, after, rfl, pairs, hlists, htaken⟩
    obtain ⟨a, ha, hiff⟩ := horderly.exists_isReadBy hreads hlists.sort_eq
    obtain rfl := (hiff s).2 ⟨pairs, hlists, htaken⟩
    exact ⟨(s, after.1), ha before (ends_of_blanks after), if_pos (skipSpace_of_blanks after)⟩

end NetDelegate.Json.Record
