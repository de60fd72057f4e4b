/-
  NetDelegate/Proofs/Json/Fields.lean
  ===================================
  **Fields and the values under their names.**  While the named values of a record are taken, a field
  holds nothing or the one value under its name so far (`hold?`, `Record.Follows.hold?_eq`).  If each
  field has one value at most, and that fits, all of them can be taken
  (`Record.IsOrderly.exists_foldlM`).
-/
import NetDelegate.Proofs.Json.Named

namespace NetDelegate.Json

/-! ### Values under a name -/

/-- The values under a name, in order. -/
def valuesOf (name : String) (pairs : List (String × Outline .value)) : List (Outline .value) :=
  (pairs.filter fun p => p.1 = name).map (·.2)

theorem valuesOf_cons_eq (name : String) (v : Outline .value)
    (pairs : List (String × Outline .value)) :
    valuesOf name ((name, v) :: pairs) = v :: valuesOf name pairs := by
  simp [valuesOf]

theorem valuesOf_cons_ne {name other : String} (h : other ≠ name) (v : Outline .value)
    (pairs : List (String × Outline .value)) :
    valuesOf name ((other, v) :: pairs) = valuesOf name pairs := by
  simp [valuesOf, h]

theorem valuesOf_eq_nil {name : String} {pairs : List (String × Outline .value)}
    (h : name ∉ pairs.map (·.1)) : valuesOf name pairs = [] := by
  rw [valuesOf, List.map_eq_nil_iff, List.filter_eq_nil_iff]
  intro p hp hname
  exact h ((of_decide_eq_true hname) ▸ List.mem_map_of_mem hp)

/-- Under each of different names there is the one value that belongs to it. -/
theorem exists_valuesOf_eq {α : Type} {P : String × α → Outline .value → Prop}
    {members : List (String × α)} {pairs : List (String × Outline .value)}
    (hnames : (members.map (·.1)).Nodup)
    (h : List.Forall₂ (fun p q => q.1 = p.1 ∧ P p q.2) members pairs) :
    ∀ p ∈ members, ∃ v, valuesOf p.1 pairs = [v] ∧ P p v := by
  induction h with
  | nil => exact List.forall_mem_nil _
  | @cons p q members pairs hpair hrest ih =>
    obtain ⟨name, v⟩ := q
    obtain ⟨rfl, hP⟩ := hpair
    rw [List.map_cons, List.nodup_cons] at hnames
    have hsame : pairs.map (·.1) = members.map (·.1) := by
      clear ih hnames
      induction hrest with
      | nil => rfl
      | cons hpair _ ih => rw [List.map_cons, List.map_cons, ih, hpair.1]
    rw [List.forall_mem_cons]
    constructor
    · exact ⟨v, by rw [valuesOf_cons_eq, valuesOf_eq_nil (hsame ▸ hnames.1)], hP⟩
    · intro p' hp'
      have hne : p.1 ≠ p'.1 := fun hname => hnames.1 (hname ▸ List.mem_map_of_mem hp')
      rw [valuesOf_cons_ne hne]
      exact ih hnames.2 p' hp'

/-! ### What a field holds -/

section
variable {α : Type} (f : Outline .value → Option α)

/-- What a field holds after values, of which one may come at most. -/
def hold? : Option α → List (Outline .value) → Option (Option α)
  | x, [] => some x
  | none, v :: vs => (f v).bind fun a => hold? (some a) vs
  | some _, _ :: _ => none

/-- What the values of a field come to: there is one at most, or `default` without one. -/
def given? (default : Option α) : List (Outline .value) → Option α
  | [] => default
  | [v] => f v
  | _ :: _ :: _ => none

theorem given?_eq (default : Option α) (vs : List (Outline .value)) :
    given? f default vs = (hold? f none vs).bind fun x => x.or default := by
  match vs with
  | [] => rfl
  | [v] =>
    rw [given?, hold?]
    cases f v with
    | none => rfl
    | some a => rfl
  | v :: w :: vs =>
    rw [given?, hold?]
    cases f v with
    | none => rfl
    | some a => rfl

variable {f}

/-- A field is given by its one value, or by its default. -/
theorem given?_eq_some_iff {default : Option α} {vs : List (Outline .value)} {a : α} :
    given? f default vs = some a ↔ vs = [] ∧ default = some a ∨ ∃ v, vs = [v] ∧ f v = some a := by
  match vs with
  | [] => simp [given?]
  | [v] => simp [given?]
  | v :: w :: vs => simp [given?]

theorem given?_of_hold? (default : Option α) {x : Option α} {vs : List (Outline .value)}
    (h : hold? f none vs = some x) : given? f default vs = x.or default := by
  rw [given?_eq, h, Option.bind_some]

theorem hold?_cons_eq_some_iff {x y : Option α} {v : Outline .value} {vs : List (Outline .value)} :
    hold? f x (v :: vs) = some y ↔ x = none ∧ ∃ a, f v = some a ∧ hold? f (some a) vs = some y := by
  cases x with
  | none => simp [hold?, Option.bind_eq_some_iff]
  | some a => simp [hold?]

end

namespace Record

variable {σ α : Type} {R : Record σ} {m : String → σ → Outline .value → Option σ} {name : String}
  {get : σ → Option α} {f : Outline .value → Option α}

/-- The field of the name is what `get` finds; it takes values as `f` says, and no other field
    touches it. -/
structure Follows (R : Record σ) (m : String → σ → Outline .value → Option σ) (name : String)
    (get : σ → Option α) (f : Outline .value → Option α) : Prop where
  field : ∃ g, R.field? name = some g ∧ ∀ s, g.isSet s = (get s).isSome
  own : ∀ s v, (m name s v).map get = (f v).map some
  other : ∀ g ∈ R.fields, g.name ≠ name → ∀ s v s', m g.name s v = some s' → get s' = get s

theorem name_of_field? {g : Field σ} (h : R.field? name = some g) : g.name = name := by
  simpa using List.find?_some h

/-- **While values are taken a field holds what is under its name.** -/
theorem Follows.hold?_eq (h : R.Follows m name get f) {pairs : List (String × Outline .value)}
    {s s' : σ} (hfold : pairs.foldlM (R.takeNamed? m) s = some s') :
    hold? f (get s) (valuesOf name pairs) = some (get s') := by
  induction pairs generalizing s with
  | nil =>
    cases hfold
    rw [valuesOf, List.filter_nil, List.map_nil, hold?]
  | cons p pairs ih =>
    obtain ⟨other, v⟩ := p
    rw [List.foldlM_cons, Option.bind_eq_bind, Option.bind_eq_some_iff] at hfold
    obtain ⟨s₁, htake, hfold⟩ := hfold
    have hih := ih hfold
    rw [takeNamed?] at htake
    by_cases hname : other = name
    · subst hname
      obtain ⟨g, hg, hset⟩ := h.field
      rw [hg] at htake
      dsimp only at htake
      rw [name_of_field? hg] at htake
      split at htake
      · cases htake
      · next hunset =>
        have hown := h.own s v
        rw [htake, Option.map_some] at hown
        obtain ⟨a, ha, hget⟩ := Option.map_eq_some_iff.1 hown.symm
        rw [hset, Bool.not_eq_true, Option.isSome_eq_false_iff, Option.isNone_iff_eq_none] at hunset
        rw [valuesOf_cons_eq, hold?_cons_eq_some_iff]
        rw [← hget] at hih
        exact ⟨hunset, a, ha, hih⟩
    · rw [valuesOf_cons_ne hname]
      have hsame : get s₁ = get s := by
        split at htake
        · cases htake
          rfl
        · next g hg =>
          split at htake
          · cases htake
          · refine h.other g (List.mem_of_find?_eq_some hg) ?_ s v s₁ htake
            rw [name_of_field? hg]
            exact hname
      rw [← hsame]
      exact hih

/-- A field can take the values under its name. -/
def CanTake (m : String → σ → Outline .value → Option σ) (g : Field σ) (s : σ)
    (vs : List (Outline .value)) : Prop :=
  vs = [] ∨ g.isSet s = false ∧ ∃ v, vs = [v] ∧ ∀ s, (m g.name s v).isSome

/-- **Values that the fields can take are taken.** -/
theorem IsOrderly.exists_foldlM (h : R.IsOrderly m) {pairs : List (String × Outline .value)}
    {s : σ} (hpairs : ∀ g ∈ R.fields, CanTake m g s (valuesOf g.name pairs)) :
    ∃ s', pairs.foldlM (R.takeNamed? m) s = some s' := by
  induction pairs generalizing s with
  | nil => exact ⟨s, rfl⟩
  | cons p pairs ih =>
    obtain ⟨name, v⟩ := p
    -- one value is taken, and then no field has one left that has taken one
    suffices htake : ∃ s₁, R.takeNamed? m s (name, v) = some s₁ ∧
        ∀ g ∈ R.fields, CanTake m g s₁ (valuesOf g.name pairs) by
      obtain ⟨s₁, htake, hleft⟩ := htake
      obtain ⟨s', hfold⟩ := ih hleft
      exact ⟨s', by rw [List.foldlM_cons, htake]; exact hfold⟩
    rw [takeNamed?]
    cases hfield : R.field? name with
    | none =>
      refine ⟨s, rfl, fun g hg => ?_⟩
      have hne : name ≠ g.name := by
        rintro rfl
        rw [h.field?_eq hg] at hfield
        cases hfield
      have hcan := hpairs g hg
      rw [valuesOf_cons_ne hne] at hcan
      exact hcan
    | some f =>
      have hf := List.mem_of_find?_eq_some hfield
      obtain rfl := name_of_field? hfield
      have hcan := hpairs f hf
      rw [valuesOf_cons_eq] at hcan
      rcases hcan with hnil | ⟨hunset, w, hone, hfits⟩
      · cases hnil
      · obtain ⟨rfl, hnil⟩ := List.cons.inj hone
        obtain ⟨s₁, hs₁⟩ := Option.isSome_iff_exists.1 (hfits s)
        refine ⟨s₁, by dsimp only; rw [hunset]; exact hs₁, fun g hg => ?_⟩
        by_cases hname : g.name = f.name
        · rw [hname, hnil]
          exact .inl rfl
        · have hother := hpairs g hg
          rw [valuesOf_cons_ne (Ne.symm hname)] at hother
          refine hother.imp_right fun htakes => ⟨?_, htakes.2⟩
          rw [h.isSet f hf s v s₁ hs₁ g hg, decide_eq_false hname, htakes.1, Bool.or_false]

end Record

end NetDelegate.Json
