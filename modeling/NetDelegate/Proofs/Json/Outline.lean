/-
  NetDelegate/Proofs/Json/Outline.lean
  ====================================
  **The grammar of JSON texts.**  An `Outline` is a value with all that is written of it: blanks,
  digits, escapes.  Its text is what it was written as (`Outline.text`); its value is what it
  stands for (`Outline.value?`), which lacks where a string is no text or a number is out of range.

  Items and members are outlines, too: those that are left up to the closing bracket.  So one
  induction goes over all parts of a text, and `Outline.rec_inner` makes of it an induction over
  values, in which the values directly inside an array or object satisfy what is to be proved.
-/
import NetDelegate.Proofs.Json.Numeral
import NetDelegate.Proofs.Text.Utf8

namespace NetDelegate.Json

/-- The parts of a text: values, the items of an array, the members of an object. -/
inductive Kind where
  | value
  | items
  | members

/-- A name with its quotes, the blanks around it and its colon. -/
structure Name where
  before : Blanks
  marks : List Mark
  after : Blanks

def Name.text (name : Name) : Bytes :=
  name.before.1 ++
    (ascii '"' :: (spelled name.marks ++ (ascii '"' :: (name.after.1 ++ [ascii ':']))))

/-- A part of a text.  Items and members go up to the closing bracket. -/
inductive Outline : Kind → Type where
  | null : Outline .value
  | bool (b : Bool) : Outline .value
  | number (negative : Bool) (digits : Bytes) (hdigits : IsNumeral digits) : Outline .value
  | string (marks : List Mark) : Outline .value
  | emptyArray (blanks : Blanks) : Outline .value
  | array (items : Outline .items) : Outline .value
  | emptyObject (blanks : Blanks) : Outline .value
  | object (members : Outline .members) : Outline .value
  | lastItem (before : Blanks) (v : Outline .value) (after : Blanks) : Outline .items
  | item (before : Blanks) (v : Outline .value) (after : Blanks) (rest : Outline .items) :
      Outline .items
  | lastMember (name : Name) (before : Blanks) (v : Outline .value) (after : Blanks) :
      Outline .members
  | member (name : Name) (before : Blanks) (v : Outline .value) (after : Blanks)
      (rest : Outline .members) : Outline .members

/-- A string that is written without escapes. -/
def plainMarks (s : String) (h : (utf8 s).all isUnescaped = true) : List Mark :=
  (utf8 s).pmap Mark.byte (List.all_eq_true.1 h)

theorem meaning?_pmap_byte (bytes : Bytes) (h : ∀ b ∈ bytes, isUnescaped b = true) :
    meaning? (bytes.pmap Mark.byte h) = some bytes := by
  induction bytes with
  | nil => rfl
  | cons b bytes ih => rw [List.pmap_cons, meaning?, ih, Option.map_some]

theorem textOf?_plainMarks (s : String) (h : (utf8 s).all isUnescaped = true) :
    textOf? (plainMarks s h) = some s := by
  rw [textOf?, plainMarks, meaning?_pmap_byte, Option.bind_some, Bytes.text?_eq_some_iff]

/-- A name that is written without escapes and blanks. -/
def plainName (s : String) (h : (utf8 s).all isUnescaped = true) : Name :=
  ⟨noBlanks, plainMarks s h, noBlanks⟩

/-- What a part stands for. -/
abbrev Kind.Meaning : Kind → Type
  | value => Json
  | items => List Json
  | members => List (String × Json)

namespace Outline

/-- The written form of a part. -/
def text : {kind : Kind} → Outline kind → Bytes
  | _, null => ['n', 'u', 'l', 'l'].map ascii
  | _, bool true => ['t', 'r', 'u', 'e'].map ascii
  | _, bool false => ['f', 'a', 'l', 's', 'e'].map ascii
  | _, number true digits _ => ascii '-' :: digits
  | _, number false digits _ => digits
  | _, string marks => ascii '"' :: (spelled marks ++ [ascii '"'])
  | _, emptyArray blanks => ascii '[' :: (blanks.1 ++ [ascii ']'])
  | _, array items => ascii '[' :: items.text
  | _, emptyObject blanks => ascii '\x7b' :: (blanks.1 ++ [ascii '\x7d'])
  | _, object members => ascii '\x7b' :: members.text
  | _, lastItem before v after => before.1 ++ (v.text ++ (after.1 ++ [ascii ']']))
  | _, item before v after rest =>
    before.1 ++ (v.text ++ (after.1 ++ (ascii ',' :: rest.text)))
  | _, lastMember name before v after =>
    name.text ++ (before.1 ++ (v.text ++ (after.1 ++ [ascii '\x7d'])))
  | _, member name before v after rest =>
    name.text ++ (before.1 ++ (v.text ++ (after.1 ++ (ascii ',' :: rest.text))))

/-- The number of arrays and objects that are open at a time. -/
def levels : {kind : Kind} → Outline kind → Nat
  | _, null | _, bool _ | _, number .. | _, string _ => 0
  | _, emptyArray _ | _, emptyObject _ => 1
  | _, array items => items.levels + 1
  | _, object members => members.levels + 1
  | _, lastItem _ v _ => v.levels
  | _, item _ v _ rest => max v.levels rest.levels
  | _, lastMember _ _ v _ => v.levels
  | _, member _ _ v _ rest => max v.levels rest.levels

/-- The strings of a part, names included. -/
def strings : {kind : Kind} → Outline kind → List (List Mark)
  | _, null | _, bool _ | _, number .. | _, emptyArray _ | _, emptyObject _ => []
  | _, string marks => [marks]
  | _, array items => items.strings
  | _, object members => members.strings
  | _, lastItem _ v _ => v.strings
  | _, item _ v _ rest => v.strings ++ rest.strings
  | _, lastMember name _ v _ => name.marks :: v.strings
  | _, member name _ v _ rest => name.marks :: (v.strings ++ rest.strings)

/-- The numbers of a part: signs and numerals. -/
def numbers : {kind : Kind} → Outline kind → List (Bool × Bytes)
  | _, null | _, bool _ | _, string _ | _, emptyArray _ | _, emptyObject _ => []
  | _, number negative digits _ => [(negative, digits)]
  | _, array items => items.numbers
  | _, object members => members.numbers
  | _, lastItem _ v _ => v.numbers
  | _, item _ v _ rest => v.numbers ++ rest.numbers
  | _, lastMember _ _ v _ => v.numbers
  | _, member _ _ v _ rest => v.numbers ++ rest.numbers

/-- A member of an object, if its name is text and its value stands for something. -/
def pair? {α : Type} (name : Name) (v : Option α) : Option (String × α) :=
  (textOf? name.marks).bind fun s => v.map fun a => (s, a)

/-- What a part stands for. -/
def value? : {kind : Kind} → Outline kind → Option kind.Meaning
  | _, null => some Json.null
  | _, bool b => some (Json.bool b)
  | _, number negative digits _ => (numeralValue? negative digits).map Json.number
  | _, string marks => (textOf? marks).map Json.string
  | _, emptyArray _ => some (Json.array [])
  | _, array items => items.value?.map Json.array
  | _, emptyObject _ => some (Json.object [])
  | _, object members => members.value?.map fun pairs => Json.object (ofPairs pairs)
  | _, lastItem _ v _ => v.value?.map fun j => [j]
  | _, item _ v _ rest => v.value?.bind fun j => rest.value?.map fun js => j :: js
  | _, lastMember name _ v _ => (pair? name v.value?).map fun p => [p]
  | _, member name _ v _ rest =>
    (pair? name v.value?).bind fun p => rest.value?.map fun ps => p :: ps

theorem isSome_bind_map {α β γ : Type} (x : Option α) (y : Option β) (f : α → β → γ) :
    (x.bind fun a => y.map (f a)).isSome ↔ x.isSome ∧ y.isSome := by
  cases x with
  | none => simp
  | some a => simp

/-- A part stands for something just when every string is text and every number is in range. -/
theorem isSome_value?_iff {kind : Kind} (o : Outline kind) :
    o.value?.isSome ↔ (∀ marks ∈ o.strings, (textOf? marks).isSome) ∧
      ∀ n ∈ o.numbers, (numeralValue? n.1 n.2).isSome := by
  induction o with
  | null => simp [value?, strings, numbers]
  | bool b => simp [value?, strings, numbers]
  | number negative digits hdigits => simp [value?, strings, numbers]
  | string marks => simp [value?, strings, numbers]
  | emptyArray blanks => simp [value?, strings, numbers]
  | array items ih => simp [value?, strings, numbers, ih]
  | emptyObject blanks => simp [value?, strings, numbers]
  | object members ih => simp [value?, strings, numbers, ih]
  | lastItem before v after ih => simp [value?, strings, numbers, ih]
  | item before v after rest ihv ihrest =>
    simp only [value?, strings, numbers, isSome_bind_map, ihv, ihrest, List.forall_mem_append]
    constructor
    · rintro ⟨⟨hvs, hvn⟩, hrests, hrestn⟩
      exact ⟨⟨hvs, hrests⟩, hvn, hrestn⟩
    · rintro ⟨⟨hvs, hrests⟩, hvn, hrestn⟩
      exact ⟨⟨hvs, hvn⟩, hrests, hrestn⟩
  | lastMember name before v after ih =>
    simp only [value?, strings, numbers, Option.isSome_map, pair?, isSome_bind_map, ih,
      List.forall_mem_cons]
    exact and_assoc.symm
  | member name before v after rest ihv ihrest =>
    simp only [value?, strings, numbers, pair?, isSome_bind_map, ihv, ihrest, List.forall_mem_cons,
      List.forall_mem_append]
    constructor
    · rintro ⟨⟨hname, hvs, hvn⟩, hrests, hrestn⟩
      exact ⟨⟨hname, hvs, hrests⟩, hvn, hrestn⟩
    · rintro ⟨⟨hname, hvs, hrests⟩, hvn, hrestn⟩
      exact ⟨⟨hname, hvs, hvn⟩, hrests, hrestn⟩

/-! ### Parts inside parts -/

/-- The values directly inside items or members. -/
def inner : {kind : Kind} → Outline kind → List (Outline .value)
  | _, null | _, bool _ | _, number .. | _, string _ | _, emptyArray _ | _, array _
  | _, emptyObject _ | _, object _ => []
  | _, lastItem _ v _ => [v]
  | _, item _ v _ rest => v :: rest.inner
  | _, lastMember _ _ v _ => [v]
  | _, member _ _ v _ rest => v :: rest.inner

/-- A property of values, for all parts: items and members have it if the values inside do. -/
def Holds (P : Outline .value → Prop) : {kind : Kind} → Outline kind → Prop
  | .value, o => P o
  | .items, o => ∀ v ∈ o.inner, P v
  | .members, o => ∀ v ∈ o.inner, P v

/-- Induction over values: what is to be proved holds of the values inside. -/
theorem rec_inner {P : Outline .value → Prop} (null : P null) (bool : ∀ b, P (bool b))
    (number : ∀ negative digits hdigits, P (number negative digits hdigits))
    (string : ∀ marks, P (string marks)) (emptyArray : ∀ blanks, P (emptyArray blanks))
    (array : ∀ items, (∀ v ∈ items.inner, P v) → P (array items))
    (emptyObject : ∀ blanks, P (emptyObject blanks))
    (object : ∀ members, (∀ v ∈ members.inner, P v) → P (object members)) (o : Outline .value) :
    P o := by
  have hall {kind : Kind} (o : Outline kind) : Holds P o := by
    induction o with
    | null => exact null
    | bool b => exact bool b
    | number negative digits hdigits => exact number negative digits hdigits
    | string marks => exact string marks
    | emptyArray blanks => exact emptyArray blanks
    | array items ih => exact array items ih
    | emptyObject blanks => exact emptyObject blanks
    | object members ih => exact object members ih
    | lastItem before v after ih => exact List.forall_mem_singleton.2 ih
    | item before v after rest ihv ihrest => exact List.forall_mem_cons.2 ⟨ihv, ihrest⟩
    | lastMember name before v after ih => exact List.forall_mem_singleton.2 ih
    | member name before v after rest ihv ihrest => exact List.forall_mem_cons.2 ⟨ihv, ihrest⟩
  exact hall o

theorem levels_le_of_mem_inner {kind : Kind} (o : Outline kind) :
    ∀ v ∈ o.inner, v.levels ≤ o.levels := by
  induction o with
  | lastItem before v after => simp [inner, levels]
  | item before v after rest _ ih =>
    simp only [inner, levels, List.forall_mem_cons]
    exact ⟨Nat.le_max_left _ _, fun w hw => Nat.le_trans (ih w hw) (Nat.le_max_right _ _)⟩
  | lastMember name before v after => simp [inner, levels]
  | member name before v after rest _ ih =>
    simp only [inner, levels, List.forall_mem_cons]
    exact ⟨Nat.le_max_left _ _, fun w hw => Nat.le_trans (ih w hw) (Nat.le_max_right _ _)⟩
  | _ => simp [inner]

/-- Every level of nesting has a bracket. -/
theorem levels_le_length {kind : Kind} (o : Outline kind) : o.levels ≤ o.text.length := by
  induction o with
  | null => exact Nat.zero_le _
  | bool b => exact Nat.zero_le _
  | number negative digits hdigits => exact Nat.zero_le _
  | string marks => exact Nat.zero_le _
  | emptyArray blanks => simp [levels, text]
  | array items ih => simpa [levels, text] using ih
  | emptyObject blanks => simp [levels, text]
  | object members ih => simpa [levels, text] using ih
  | lastItem before v after ih =>
    simp only [levels, text, List.length_append]
    omega
  | item before v after rest ihv ihrest =>
    simp only [levels, text, List.length_append, List.length_cons]
    omega
  | lastMember name before v after ih =>
    simp only [levels, text, List.length_append]
    omega
  | member name before v after rest ihv ihrest =>
    simp only [levels, text, List.length_append, List.length_cons]
    omega

/-! ### Where parts begin and end -/

/-- A value does not begin with a delimiter. -/
theorem exists_head (o : Outline .value) (rest : Bytes) :
    ∃ b more, o.text ++ rest = b :: more ∧ isDelimiter b = false := by
  cases o with
  | null => exact ⟨_, _, rfl, by decide⟩
  | bool b =>
    cases b with
    | true => exact ⟨_, _, rfl, by decide⟩
    | false => exact ⟨_, _, rfl, by decide⟩
  | number negative digits hdigits =>
    cases negative with
    | true => exact ⟨_, _, rfl, by decide⟩
    | false =>
      obtain ⟨b, ds, rfl, hb⟩ := hdigits.exists_head
      exact ⟨b, ds ++ rest, rfl, (ne_of_isDigit hb).1⟩
  | string marks => exact ⟨_, _, rfl, by decide⟩
  | emptyArray blanks => exact ⟨_, _, rfl, by decide⟩
  | array items => exact ⟨_, _, rfl, by decide⟩
  | emptyObject blanks => exact ⟨_, _, rfl, by decide⟩
  | object members => exact ⟨_, _, rfl, by decide⟩

end Outline

/-! ### Delimiters -/

theorem isSpace_of_isDelimiter {b : UInt8} (hb : isDelimiter b = false) : isSpace b = false := by
  simp only [isDelimiter, Bool.or_eq_false_iff] at hb
  exact hb.1.1.1

theorem isDelimiter_of_isSpace {b : UInt8} (hb : isSpace b = true) : isDelimiter b = true := by
  simp only [isDelimiter, hb, Bool.true_or]

/-- Blanks and a delimiter end a value. -/
theorem ends_blanks (blanks : Blanks) {b : UInt8} (hb : isDelimiter b = true) (rest : Bytes) :
    Ends (blanks.1 ++ b :: rest) := by
  obtain ⟨bs, hbs⟩ := blanks
  intro c more hhead
  cases bs with
  | nil =>
    obtain ⟨rfl, -⟩ := List.cons.inj hhead
    exact hb
  | cons c' bs =>
    obtain ⟨rfl, -⟩ := List.cons.inj hhead
    exact isDelimiter_of_isSpace (hbs c' List.mem_cons_self)

theorem ends_of_blanks (blanks : Blanks) : Ends blanks.1 := by
  intro b more hhead
  apply isDelimiter_of_isSpace
  apply blanks.2
  rw [hhead]
  exact List.mem_cons_self

theorem skipSpace_of_blanks (blanks : Blanks) : skipSpace blanks.1 = [] := by
  have hskip := skipSpace_blanks blanks []
  rw [List.append_nil] at hskip
  exact hskip

/-- Before a value and before a delimiter that is no blank, blanks are passed over. -/
theorem skipSpace_blanks_cons (blanks : Blanks) {b : UInt8} (hb : isSpace b = false)
    (rest : Bytes) : skipSpace (blanks.1 ++ b :: rest) = b :: rest := by
  rw [skipSpace_blanks, skipSpace_cons hb]

theorem Outline.skipSpace_text (before : Blanks) (o : Outline .value) (rest : Bytes) :
    skipSpace (before.1 ++ (o.text ++ rest)) = o.text ++ rest := by
  obtain ⟨b, more, hhead, hb⟩ := o.exists_head rest
  rw [hhead, skipSpace_blanks_cons before (isSpace_of_isDelimiter hb)]

theorem Outline.exists_skipSpace_items (items : Outline .items) (rest : Bytes) :
    ∃ b more, skipSpace (items.text ++ rest) = b :: more ∧ isDelimiter b = false := by
  have hvalue (before : Blanks) (v : Outline .value) (left : Bytes) :
      ∃ b more, skipSpace (before.1 ++ (v.text ++ left)) = b :: more ∧ isDelimiter b = false := by
    obtain ⟨b, more, hhead, hb⟩ := v.exists_head left
    exact ⟨b, more, (v.skipSpace_text before left).trans hhead, hb⟩
  cases items with
  | lastItem before v after =>
    simp only [text, List.append_assoc]
    exact hvalue before v _
  | item before v after more =>
    simp only [text, List.append_assoc]
    exact hvalue before v _

end NetDelegate.Json
