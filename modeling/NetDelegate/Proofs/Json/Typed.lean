/-
  NetDelegate/Proofs/Json/Typed.lean
  ==================================
  **Typed data is read as the value of the text says.**  The first byte of a value tells its sort
  (`Outline.exists_head_sort`), so that a reader of one sort comes to something at values of the
  sort only: to the text of a string, to the number of a numeral.  What it comes to is said by a
  partial function on values (`isReadBy_readString` and its like).

  A record is read in the same way.  With such a function for every field its members may be
  taken as the names and values that the text stands for (`Record.takeValue?`), and no text needs
  to be looked at any more (`Record.toOption_parse_object`).
-/
import Mathlib.Data.List.Forall2
import NetDelegate.Proofs.Json.Record

namespace NetDelegate.Json

/-! ### Sorts of values -/

inductive Sorts where
  | null
  | bool
  | number
  | string
  | array
  | object
  deriving DecidableEq

def sort : Json → Sorts
  | null => .null
  | bool _ => .bool
  | number _ => .number
  | string _ => .string
  | array _ => .array
  | object _ => .object

/-- The sort of the values that begin with a byte. -/
def sortOf? (b : UInt8) : Option Sorts :=
  if b = ascii 'n' then some .null
  else if b = ascii 't' ∨ b = ascii 'f' then some .bool
  else if b = ascii '-' ∨ isDigit b then some .number
  else if b = ascii '"' then some .string
  else if b = ascii '[' then some .array
  else if b = ascii '\x7b' then some .object
  else none

theorem sortOf?_digit {b : UInt8} (hb : isDigit b = true) : sortOf? b = some .number := by
  obtain ⟨-, hn, ht, hf, -⟩ := ne_of_isDigit hb
  simp [sortOf?, hn, ht, hf, hb]

theorem eq_brace_of_sortOf? {b : UInt8} (h : sortOf? b = some .object) : b = ascii '\x7b' := by
  unfold sortOf? at h
  repeat' split at h
  all_goals first
    | assumption
    | cases h

namespace Outline

def sort : Outline .value → Sorts
  | null => .null
  | bool _ => .bool
  | number .. => .number
  | string _ => .string
  | emptyArray _ | array _ => .array
  | emptyObject _ | object _ => .object

/-- **The byte that a value begins with tells its sort.** -/
theorem exists_head_sort (v : Outline .value) (rest : Bytes) :
    ∃ b more, v.text ++ rest = b :: more ∧ sortOf? b = some v.sort := by
  cases v with
  | null => exact ⟨_, _, rfl, rfl⟩
  | bool b =>
    cases b with
    | true => exact ⟨_, _, rfl, rfl⟩
    | false => exact ⟨_, _, rfl, rfl⟩
  | number negative digits hdigits =>
    cases negative with
    | true => exact ⟨_, _, rfl, rfl⟩
    | false =>
      obtain ⟨b, ds, rfl, hb⟩ := hdigits.exists_head
      exact ⟨b, ds ++ rest, rfl, sortOf?_digit hb⟩
  | string marks => exact ⟨_, _, rfl, rfl⟩
  | emptyArray blanks => exact ⟨_, _, rfl, rfl⟩
  | array items => exact ⟨_, _, rfl, rfl⟩
  | emptyObject blanks => exact ⟨_, _, rfl, rfl⟩
  | object members => exact ⟨_, _, rfl, rfl⟩

theorem sort_of_value? {v : Outline .value} {j : Json} (h : v.value? = some j) :
    j.sort = v.sort := by
  cases v with
  | null =>
    cases h
    rfl
  | bool b =>
    cases h
    rfl
  | number negative digits hdigits =>
    obtain ⟨n, -, rfl⟩ := Option.map_eq_some_iff.1 h
    rfl
  | string marks =>
    obtain ⟨s, -, rfl⟩ := Option.map_eq_some_iff.1 h
    rfl
  | emptyArray blanks =>
    cases h
    rfl
  | array items =>
    obtain ⟨vs, -, rfl⟩ := Option.map_eq_some_iff.1 h
    rfl
  | emptyObject blanks =>
    cases h
    rfl
  | object members =>
    obtain ⟨ps, -, rfl⟩ := Option.map_eq_some_iff.1 h
    rfl

/-- What is nothing at all values of a sort is nothing at this one. -/
theorem bind_value?_eq_none {α : Type} {f : Json → Option α} {v : Outline .value}
    (hf : ∀ j, j.sort = v.sort → f j = none) : v.value?.bind f = none := by
  cases hvalue : v.value? with
  | none => rfl
  | some j => exact hf j (sort_of_value? hvalue)

theorem exists_marks_of_sort {v : Outline .value} (h : v.sort = .string) :
    ∃ marks, v = string marks := by
  cases v with
  | string marks => exact ⟨marks, rfl⟩
  | _ => cases h

theorem exists_numeral_of_sort {v : Outline .value} (h : v.sort = .number) :
    ∃ negative digits hdigits, v = number negative digits hdigits := by
  cases v with
  | number negative digits hdigits => exact ⟨negative, digits, hdigits, rfl⟩
  | _ => cases h

theorem eq_null_of_sort {v : Outline .value} (h : v.sort = .null) : v = null := by
  cases v with
  | null => rfl
  | _ => cases h

end Outline

/-! ### Data of another type -/

/-- Where data of another type was wanted, nothing is read. -/
theorem toOption_unexpected {α : Type} (expected : String) (input : Bytes) :
    (unexpected expected input : Except Stop α).toOption = none := by
  have hstops : ∀ {β : Type} (x : Except Stop β) (issue : β → Issue) (rest : β → Bytes),
      (x >>= fun p => (stopBefore (issue p) (rest p) : Except Stop α)).toOption = none := by
    intro β x issue rest
    cases x with
    | error stop => rfl
    | ok p => rfl
  cases input with
  | nil => rfl
  | cons b rest =>
    unfold unexpected
    dsimp only
    repeat' split
    all_goals first
      | rfl
      | exact hstops _ _ _

theorem unexpected_ne_ok {α : Type} {expected : String} {input : Bytes} {v : α} :
    (unexpected expected input : Except Stop α) ≠ .ok v := by
  intro h
  have hnone := toOption_unexpected (α := α) expected input
  rw [h] at hnone
  cases hnone

/-! ### Strings and numbers -/

/-- The text of a string, or the lack of one. -/
def textOrNull? : Json → Option (Option String)
  | null => some none
  | string s => some (some s)
  | _ => none

/-- A natural number up to `max`. -/
def whole? (max : Nat) : Json → Option Nat
  | number (.natural n) => if n ≤ max then some n else none
  | _ => none

theorem isReadBy_readString (v : Outline .value) : v.IsReadBy readString (v.value?.bind text?) := by
  intro before rest hrest
  rw [readString, v.skipSpace_text]
  by_cases hstring : v.sort = .string
  · obtain ⟨marks, rfl⟩ := Outline.exists_marks_of_sort hstring
    rw [Outline.text, List.cons_append, List.append_assoc]
    change (stringBody (spelled marks ++ ascii '"' :: rest)).toOption = _
    rw [toOption_stringBody, Outline.value?]
    cases textOf? marks with
    | none => rfl
    | some s => rfl
  · obtain ⟨b, more, hhead, hb⟩ := v.exists_head_sort rest
    have hquote : b ≠ ascii '"' := by
      rintro rfl
      exact hstring (Option.some.inj hb).symm
    have hnone : v.value?.bind text? = none := by
      apply Outline.bind_value?_eq_none
      intro j hj
      cases j with
      | string s => exact absurd hj.symm hstring
      | _ => rfl
    rw [hhead, hnone]
    dsimp only
    rw [if_neg hquote, toOption_unexpected]
    rfl

theorem isReadBy_readString? (v : Outline .value) :
    v.IsReadBy readString? (v.value?.bind textOrNull?) := by
  intro before rest hrest
  obtain ⟨b, more, hhead, hb⟩ := v.exists_head_sort rest
  rw [readString?, v.skipSpace_text]
  by_cases hnull : v.sort = .null
  · rw [Outline.eq_null_of_sort hnull]
    change (literal ['u', 'l', 'l'] (['u', 'l', 'l'].map ascii ++ rest) >>= _).toOption = _
    rw [literal_append]
    rfl
  · have hn : b ≠ ascii 'n' := by
      rintro rfl
      exact hnull (Option.some.inj hb).symm
    have hread := (isReadBy_readString v).bare hrest
    have hsame : v.value?.bind textOrNull? = (v.value?.bind text?).map some := by
      cases hvalue : v.value? with
      | none => rfl
      | some j =>
        have hj := Outline.sort_of_value? hvalue
        cases j with
        | null => exact absurd hj.symm hnull
        | _ => rfl
    rw [hhead] at hread ⊢
    dsimp only
    rw [if_neg hn]
    change (readString (b :: more) >>= fun p => .ok (some p.1, p.2)).toOption = _
    rw [Outline.toOption_bind_ok some, hread, hsame, Option.map_map, Option.map_map]
    rfl

theorem isReadBy_readWhole (max : Nat) (expected : String) (v : Outline .value) :
    v.IsReadBy (readWhole max expected) (v.value?.bind (whole? max)) := by
  intro before rest hrest
  unfold readWhole
  extract_lets check
  have hcheck (n : Number) :
      (check (n, rest)).toOption = (whole? max (.number n)).map fun k => (k, rest) := by
    cases n with
    | natural n =>
      by_cases hn : n ≤ max
      · simp [check, whole?, hn, Except.toOption]
      · simp [check, whole?, hn, stopBefore, Except.toOption]
    | negative n => rfl
    | real x => rfl
  rw [v.skipSpace_text]
  by_cases hnumber : v.sort = .number
  · obtain ⟨negative, digits, hdigits, rfl⟩ := Outline.exists_numeral_of_sort hnumber
    have hread : (numberBody negative (digits ++ rest) >>= check).toOption =
        ((Outline.number negative digits hdigits).value?.bind (whole? max)).map
          fun k => (k, rest) := by
      rw [toOption_bind, toOption_numberBody hdigits hrest, Outline.value?]
      cases numeralValue? negative digits with
      | none => rfl
      | some n => exact hcheck n
    cases negative with
    | true => exact hread
    | false =>
      obtain ⟨b, ds, rfl, hb⟩ := hdigits.exists_head
      rw [← hread]
      change (if b = ascii '-' then numberBody true (ds ++ rest) >>= check
        else if isDigit b then numberBody false (b :: (ds ++ rest)) >>= check
        else unexpected expected (b :: (ds ++ rest)) : Except Stop (Nat × Bytes)).toOption = _
      rw [if_neg (ne_of_isDigit hb).2.2.2.2, if_pos hb]
      rfl
  · obtain ⟨b, more, hhead, hb⟩ := v.exists_head_sort rest
    have hminus : b ≠ ascii '-' := by
      rintro rfl
      exact hnumber (Option.some.inj hb).symm
    have hdigit : isDigit b = false := by
      rw [Bool.eq_false_iff]
      intro hdigit
      rw [sortOf?_digit hdigit] at hb
      exact hnumber (Option.some.inj hb).symm
    have hnone : v.value?.bind (whole? max) = none := by
      apply Outline.bind_value?_eq_none
      intro j hj
      cases j with
      | number n => exact absurd hj.symm hnumber
      | _ => rfl
    rw [hhead, hnone]
    simp only [hminus, hdigit, if_false, Bool.false_eq_true, toOption_unexpected]
    rfl

/-! ### Arrays -/

section
variable {α : Type} {item : Nat → Bytes → Except Stop (α × Bytes)} {m : Outline .value → Option α}
  {depth : Nat}

/-- An array is read if its items are, with one level less. -/
theorem isReadBy_readArray {items : Outline .items}
    (h : ∀ v ∈ items.inner, v.IsReadBy (item depth) (m v)) :
    (Outline.array items).IsReadBy (readArray item (depth + 1)) (Outline.collect m items) := by
  intro before rest hrest
  have hsteps : items.text.length ≤ (items.text ++ rest).length := by
    rw [List.length_append]
    exact Nat.le_add_right _ _
  obtain ⟨b, more, hhead, hb⟩ := Outline.exists_skipSpace_items items rest
  have hclose : b ≠ ascii ']' := by
    rintro rfl
    exact absurd hb (by decide)
  rw [readArray, Outline.skipSpace_text]
  change (elements (item depth) ((items.text ++ rest).length + 1) true
    (items.text ++ rest)).toOption = _
  rw [elements_next hhead hclose]
  change (elementsFrom (item depth) _ (b :: more)).toOption = _
  rw [← hhead, Outline.read_items items h hsteps]

theorem sort_of_readArray_eq_ok {v : Outline .value} {before : Blanks} {rest : Bytes}
    {p : List α × Bytes} (h : readArray item depth (before.1 ++ (v.text ++ rest)) = .ok p) :
    v.sort = .array := by
  obtain ⟨b, more, hhead, hb⟩ := v.exists_head_sort rest
  rw [readArray, v.skipSpace_text, hhead] at h
  dsimp only at h
  split at h
  · next hbracket =>
    rw [hbracket] at hb
    exact (Option.some.inj hb).symm
  · exact absurd h unexpected_ne_ok

end

/-! ### Objects -/

/-- What the values of an object come to, with their names. -/
def Outline.pairs? {α : Type} (m : Outline .value → Option α) :
    Outline .value → Option (List (String × α))
  | emptyObject _ => some []
  | object members => collectMembers m members
  | _ => none

section
variable {α : Type} {item : Nat → Bytes → Except Stop (α × Bytes)} {m : Outline .value → Option α}
  {depth : Nat}

theorem Outline.pairs?_of_sort_ne {v : Outline .value} (h : v.sort ≠ .object) :
    v.pairs? m = none := by
  cases v with
  | emptyObject blanks => exact absurd rfl h
  | object members => exact absurd rfl h
  | _ => rfl

theorem isReadBy_readObject_of_sort_ne {v : Outline .value} (h : v.sort ≠ .object) (depth : Nat) :
    v.IsReadBy (readObject item depth) none := by
  intro before rest hrest
  obtain ⟨b, more, hhead, hb⟩ := v.exists_head_sort rest
  have hbrace : b ≠ ascii '\x7b' := by
    rintro rfl
    exact h (Option.some.inj hb).symm
  rw [readObject, v.skipSpace_text, hhead]
  dsimp only
  rw [if_neg hbrace, toOption_unexpected]
  rfl

/-- An object is read if its values are, with one level less, and no other value is. -/
theorem isReadBy_readObject (h : ∀ v : Outline .value, v.IsReadBy (item depth) (m v))
    (v : Outline .value) : v.IsReadBy (readObject item (depth + 1)) (v.pairs? m) := by
  by_cases hsort : v.sort = .object
  · intro before rest hrest
    rw [readObject, Outline.skipSpace_text]
    cases v with
    | emptyObject blanks =>
      rw [Outline.text, List.cons_append, List.append_assoc, List.singleton_append]
      change (pairs (item depth) _ true (blanks.1 ++ ascii '\x7d' :: rest)).toOption = _
      rw [pairs_close (Nat.succ_pos _)]
      rfl
    | object members =>
      obtain ⟨start, hhead⟩ := Outline.exists_skipSpace_members members rest
      have hsteps : members.text.length ≤ (members.text ++ rest).length := by
        rw [List.length_append]
        exact Nat.le_add_right _ _
      change (pairs (item depth) ((members.text ++ rest).length + 1) true
        (members.text ++ rest)).toOption = _
      rw [pairs_next hhead (by decide)]
      exact Outline.read_members members (fun w _ => h w) hsteps hhead
    | _ => cases hsort
  · rw [Outline.pairs?_of_sort_ne hsort]
    exact isReadBy_readObject_of_sort_ne hsort _

end

/-- Items come to what they come to one by one. -/
theorem Outline.collect_eq_some_iff {α : Type} {m : Outline .value → Option α} :
    (items : Outline .items) → {vs : List α} →
      (collect m items = some vs ↔ List.Forall₂ (fun v a => m v = some a) items.inner vs)
  | lastItem before v after, vs => by
    rw [collect, inner, Option.map_eq_some_iff]
    constructor
    · rintro ⟨a, ha, rfl⟩
      exact .cons ha .nil
    · intro h
      cases h with
      | cons ha hnone =>
        cases hnone
        exact ⟨_, ha, rfl⟩
  | item before v after rest, vs => by
    rw [collect, inner, Option.bind_eq_some_iff]
    constructor
    · rintro ⟨a, ha, h⟩
      obtain ⟨as, has, rfl⟩ := Option.map_eq_some_iff.1 h
      exact .cons ha (rest.collect_eq_some_iff.1 has)
    · intro h
      cases h with
      | cons ha has => exact ⟨_, ha, by rw [rest.collect_eq_some_iff.2 has]; rfl⟩

/-! ### Members -/

theorem Outline.pair?_eq_some_iff {α : Type} {name : Name} {v : Option α} {p : String × α} :
    pair? name v = some p ↔ textOf? name.marks = some p.1 ∧ v = some p.2 := by
  rw [pair?, Option.bind_eq_some_iff]
  constructor
  · rintro ⟨s, hs, hp⟩
    obtain ⟨a, rfl, rfl⟩ := Option.map_eq_some_iff.1 hp
    exact ⟨hs, rfl⟩
  · rintro ⟨hs, rfl⟩
    exact ⟨p.1, hs, rfl⟩

/-- Members come to what they come to one by one. -/
theorem Outline.collectMembers_eq_some_iff {α : Type} {m : Outline .value → Option α} :
    (members : Outline .members) → {ps : List (String × α)} →
      (collectMembers m members = some ps ↔
        List.Forall₂ (fun entry p => textOf? entry.1 = some p.1 ∧ m entry.2 = some p.2)
          members.entries ps)
  | lastMember name before v after, ps => by
    rw [collectMembers, entries, Option.map_eq_some_iff]
    constructor
    · rintro ⟨p, hp, rfl⟩
      exact .cons (pair?_eq_some_iff.1 hp) .nil
    · intro h
      cases h with
      | cons hp hnone =>
        cases hnone
        exact ⟨_, pair?_eq_some_iff.2 hp, rfl⟩
  | member name before v after rest, ps => by
    rw [collectMembers, entries, Option.bind_eq_some_iff]
    constructor
    · rintro ⟨p, hp, h⟩
      obtain ⟨ps, hps, rfl⟩ := Option.map_eq_some_iff.1 h
      exact .cons (pair?_eq_some_iff.1 hp) (rest.collectMembers_eq_some_iff.1 hps)
    · intro h
      cases h with
      | cons hp hps =>
        exact ⟨_, pair?_eq_some_iff.2 hp, by rw [rest.collectMembers_eq_some_iff.2 hps]; rfl⟩

theorem Outline.collectMembers_value? : (members : Outline .members) →
    collectMembers value? members = members.value?
  | lastMember name before v after => by rw [collectMembers, value?]
  | member name before v after rest => by rw [collectMembers, rest.collectMembers_value?, value?]

/-- The names and values of members that stand for something. -/
theorem Outline.value?_members_eq_some_iff {members : Outline .members}
    {ps : List (String × Json)} :
    members.value? = some ps ↔
      List.Forall₂ (fun entry p => textOf? entry.1 = some p.1 ∧ entry.2.value? = some p.2)
        members.entries ps := by
  rw [← members.collectMembers_value?, collectMembers_eq_some_iff]

/-! ### Records -/

namespace Record

variable {σ : Type} (R : Record σ)

/-- Takes one member, where `m` says what the value of the field of a name comes to. -/
def takeValue? (m : String → σ → Json → Option σ) (s : σ) (p : String × Json) : Option σ :=
  match R.field? p.1 with
  | none => some s
  | some f => if f.isSet s then none else m f.name s p.2

/-- Every field is read as `m` says of the value. -/
def ReadsFields (depth : Nat) (m : String → σ → Json → Option σ) : Prop :=
  ∀ f ∈ R.fields, ∀ s (v : Outline .value),
    v.IsReadBy (f.read depth s) (v.value?.bind (m f.name s))

variable {R} {m : String → σ → Json → Option σ} {depth : Nat}

/-- A field is read as its reader says of the value. -/
theorem isReadBy_field_value {α : Type} {name : String} {required : Bool} {get : σ → Option α}
    {set : σ → α → σ} {reader : Nat → Bytes → Except Stop (α × Bytes)} {g : Json → Option α}
    {v : Outline .value} (h : v.IsReadBy (reader depth) (v.value?.bind g)) (s : σ) :
    v.IsReadBy ((field name required get set reader).read depth s)
      (v.value?.bind fun j => (g j).map (set s)) := by
  have hset : v.IsReadBy ((field name required get set reader).read depth s)
      ((v.value?.bind g).map (set s)) := isReadBy_field h s
  rw [Option.map_bind] at hset
  exact hset

/-- Taking the members of an outline is taking the names and values that it stands for. -/
theorem absorb?_of_value? {members : Outline .members} {ps : List (String × Json)}
    (h : members.value? = some ps) (s : σ) :
    R.absorb? (fun f s v => v.value?.bind (m f.name s)) s members =
      ps.foldlM (R.takeValue? m) s := by
  have hentries := Outline.value?_members_eq_some_iff.1 h
  rw [absorb?]
  clear h
  generalize members.entries = entries at hentries
  induction hentries generalizing s with
  | nil => rfl
  | @cons entry p entries ps hentry _ ih =>
    have htake : R.take? (fun f s v => v.value?.bind (m f.name s)) s entry =
        R.takeValue? m s p := by
      rw [take?, takeValue?, hentry.1, hentry.2]
      rfl
    rw [List.foldlM_cons, List.foldlM_cons, htake]
    cases R.takeValue? m s p with
    | none => rfl
    | some s => exact ih s

/-- **A record is read from the names and values of the object.** -/
theorem toOption_parse_object (hdepth : maxDepth = depth + 1) (hread : R.ReadsFields depth m)
    (before : Blanks) {members : Outline .members} (after : Blanks) {ps : List (String × Json)}
    (h : members.value? = some ps) :
    (R.parse (before.1 ++ ((Outline.object members).text ++ after.1))).toOption =
      (ps.foldlM (R.takeValue? m) R.initial).bind R.finish? := by
  have hentries : ∀ entry ∈ members.entries,
      R.ReadsEntry depth (fun f s v => v.value?.bind (m f.name s)) entry := by
    intro entry _ name f _ hf s
    exact hread f (List.mem_of_find?_eq_some hf) s entry.2
  rw [toOption_parse hdepth before members after hentries, absorb?_of_value? h]

end Record

end NetDelegate.Json
