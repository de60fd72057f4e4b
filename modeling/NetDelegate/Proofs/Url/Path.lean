/-
  NetDelegate/Proofs/Url/Path.lean
  ================================
  **What putting segments at the end of a path comes to.**  Behind a path that has a segment which
  is not empty, a part adds the segments `addition part`, or else goes one segment up and leaves an
  empty one (`push_eq_advance`).  So parts stay behind the path they are put to
  (`extend_of_not_leadsOut`), unless the first of them that counts leads up, and then the last
  segment of that path is gone for good (`extend_of_leadsOut`).

  The segments spell the parts exactly where every part is literal (`joined_extension_iff`): a
  part that is not has bytes that no segment spells.
-/
import Mathlib.Algebra.GroupWithZero.Nat
import Mathlib.Data.List.Flatten
import Mathlib.Tactic.ByContra
import NetDelegate.Proofs.Text.Percent
import NetDelegate.Url.Path

namespace NetDelegate.Path

/-! ### Parts -/

/-- A part that changes nothing. -/
def IsPassedOver (part : List Char) : Prop := part = ['.'] ∨ part = ['.', '.']

/-- A part without the characters that an address never has. -/
def shown (part : List Char) : List Char := part.filter fun c => !isDropped c

/-- A part that goes up: it is seen to be `..` only when tabs and line ends are gone. -/
def LeadsUp (part : List Char) : Prop := ¬IsPassedOver part ∧ shown part = ['.', '.']

/-- A part that is one segment of the path, character by character. -/
def IsLiteral (part : List Char) : Prop := ¬IsPassedOver part ∧ shown part = part

instance (part : List Char) : Decidable (IsPassedOver part) :=
  inferInstanceAs (Decidable (part = ['.'] ∨ part = ['.', '.']))

instance (part : List Char) : Decidable (LeadsUp part) :=
  inferInstanceAs (Decidable (¬IsPassedOver part ∧ shown part = ['.', '.']))

instance (part : List Char) : Decidable (IsLiteral part) :=
  inferInstanceAs (Decidable (¬IsPassedOver part ∧ shown part = part))

/-- The segment that is written for a part. -/
def written (part : List Char) : String := String.ofList (Percent.encode Percent.segmentKeeps part)

/-- The segments that a part adds, if it does not go up. -/
def addition (part : List Char) : List String :=
  if IsPassedOver part then [] else if shown part = ['.'] then [""] else [written (shown part)]

/-- A path with one more part behind it. -/
def advance (path : List String) (part : List Char) : List String :=
  if LeadsUp part then parent path ++ [""] else path ++ addition part

/-- Segments that the given parts make where nothing stands before them. -/
def extension (parts : List (List Char)) : List String := parts.foldl advance []

theorem isSingleDot_encode {cs : List Char} :
    isSingleDot (Percent.encode Percent.segmentKeeps cs) = true ↔ cs = ['.'] := by
  constructor
  · intro h
    have hforms : ∀ form ∈ dotForms, Percent.decode (Utf8.encode form) = Utf8.encode ['.'] := by
      decide
    refine Percent.eq_of_decode_encode Percent.isClass_segmentKeeps ?_
    exact hforms _ (List.contains_iff_mem.1 h)
  · rintro rfl
    decide

theorem isDoubleDot_encode {cs : List Char} :
    isDoubleDot (Percent.encode Percent.segmentKeeps cs) = true ↔ cs = ['.', '.'] := by
  constructor
  · intro h
    have hforms : ∀ a ∈ dotForms, ∀ b ∈ dotForms,
        Percent.decode (Utf8.encode (a ++ b)) = Utf8.encode ['.', '.'] := by
      decide
    simp only [isDoubleDot, List.any_eq_true, decide_eq_true_eq] at h
    obtain ⟨a, ha, b, hb, heq⟩ := h
    refine Percent.eq_of_decode_encode Percent.isClass_segmentKeeps ?_
    rw [heq]
    exact hforms a ha b hb
  · rintro rfl
    decide

/-- The one case in which a path is changed otherwise than by `advance` is the empty path. -/
theorem push_eq (path : List String) (part : List Char) :
    push path part =
      if IsPassedOver part then path else advance (if path = [""] then [] else path) part := by
  by_cases hpassed : IsPassedOver part
  · rw [if_pos hpassed]
    exact if_pos hpassed
  · have hpush : push path part =
        step Percent.segmentKeeps (if path = [""] then [] else path) (shown part) true :=
      if_neg hpassed
    rw [if_neg hpassed, hpush, step, if_pos rfl]
    simp only [isDoubleDot_encode, isSingleDot_encode, advance, LeadsUp, addition, hpassed,
      not_false_eq_true, true_and, if_false]
    split
    · rfl
    · split
      · rfl
      · rfl

theorem advance_of_isPassedOver (path : List String) {part : List Char} (h : IsPassedOver part) :
    advance path part = path := by
  have hup : ¬LeadsUp part := fun hup => hup.1 h
  rw [advance, if_neg hup, addition, if_pos h, List.append_nil]

theorem push_eq_advance {path : List String} (h : path ≠ [""]) (part : List Char) :
    push path part = advance path part := by
  rw [push_eq, if_neg h]
  split
  · next hpassed => rw [advance_of_isPassedOver path hpassed]
  · rfl

/-! ### Parts behind a path -/

theorem parent_append (path : List String) {added : List String} (h : added ≠ []) :
    parent (path ++ added) = path ++ parent added := by
  unfold parent
  rw [List.getLast?_append, List.getLast?_eq_some_getLast h, Option.some_or]
  split
  · next hnone => cases hnone
  · split
    · rfl
    · exact List.dropLast_append_of_ne_nil h

theorem advance_append (path : List String) {added : List String} {part : List Char}
    (h : added ≠ [] ∨ ¬LeadsUp part) : advance (path ++ added) part = path ++ advance added part := by
  unfold advance
  split
  · next hup =>
    rcases h with hadded | hnot
    · rw [parent_append path hadded, List.append_assoc]
    · exact absurd hup hnot
  · rw [List.append_assoc]

theorem advance_ne_nil {added : List String} (h : added ≠ []) (part : List Char) :
    advance added part ≠ [] := by
  unfold advance
  split
  · exact List.append_ne_nil_of_right_ne_nil _ (List.cons_ne_nil _ _)
  · exact List.append_ne_nil_of_left_ne_nil h _

theorem ne_root {path : List String} (h : ∃ segment ∈ path, segment ≠ "") : path ≠ [""] := by
  rintro rfl
  obtain ⟨segment, hmem, hne⟩ := h
  exact hne (List.mem_singleton.1 hmem)

section
variable {path : List String} (hpath : ∃ segment ∈ path, segment ≠ "")

include hpath

theorem append_ne_root (added : List String) : path ++ added ≠ [""] := by
  obtain ⟨segment, hmem, hne⟩ := hpath
  exact ne_root ⟨segment, List.mem_append_left added hmem, hne⟩

/-- Once something stands behind a path, all that follows stays behind it. -/
theorem extend_append {added : List String} (hadded : added ≠ []) (parts : List (List Char)) :
    extend (path ++ added) parts = path ++ parts.foldl advance added := by
  unfold extend
  induction parts generalizing added with
  | nil => rfl
  | cons part parts ih =>
    rw [List.foldl_cons, List.foldl_cons, push_eq_advance (append_ne_root hpath added),
      advance_append path (.inl hadded)]
    exact ih (advance_ne_nil hadded part)

end

/-- The first of the parts that changes something goes up. -/
def LeadsOut : List (List Char) → Prop
  | [] => False
  | part :: parts => LeadsUp part ∨ (IsPassedOver part ∧ LeadsOut parts)

instance decidableLeadsOut : (parts : List (List Char)) → Decidable (LeadsOut parts)
  | [] => inferInstanceAs (Decidable False)
  | part :: parts =>
    have := decidableLeadsOut parts
    inferInstanceAs (Decidable (LeadsUp part ∨ (IsPassedOver part ∧ LeadsOut parts)))

theorem extend_of_not_leadsOut {path : List String} (hpath : ∃ segment ∈ path, segment ≠ "")
    {parts : List (List Char)} (h : ¬LeadsOut parts) :
    extend path parts = path ++ extension parts := by
  induction parts with
  | nil => exact (List.append_nil path).symm
  | cons part parts ih =>
    simp only [LeadsOut, not_or, not_and] at h
    obtain ⟨hup, hrest⟩ := h
    have hextend : extend path (part :: parts) = extend (advance path part) parts := by
      rw [← push_eq_advance (ne_root hpath)]
      rfl
    have hextension : extension (part :: parts) = parts.foldl advance (advance [] part) := rfl
    rw [hextend, hextension]
    by_cases hpassed : IsPassedOver part
    · rw [advance_of_isPassedOver path hpassed, advance_of_isPassedOver [] hpassed]
      exact ih (hrest hpassed)
    · rw [advance, if_neg hup, advance, if_neg hup, List.nil_append]
      refine extend_append hpath ?_ parts
      rw [addition, if_neg hpassed]
      split
      · exact List.cons_ne_nil _ _
      · exact List.cons_ne_nil _ _

/-- An empty segment at the top stays: going up from it leaves an empty one again. -/
theorem advance_of_head_empty (rest : List String) (part : List Char) :
    ∃ rest', advance ("" :: rest) part = "" :: rest' := by
  unfold advance
  split
  · cases rest with
    | nil => exact ⟨[], rfl⟩
    | cons s rest =>
      have hparent : parent ("" :: s :: rest) = "" :: parent (s :: rest) :=
        parent_append [""] (List.cons_ne_nil s rest)
      exact ⟨_, by rw [hparent]; rfl⟩
  · exact ⟨_, rfl⟩

theorem foldl_advance_of_head_empty (parts : List (List Char)) (rest : List String) :
    ∃ rest', parts.foldl advance ("" :: rest) = "" :: rest' := by
  induction parts generalizing rest with
  | nil => exact ⟨rest, rfl⟩
  | cons part parts ih =>
    obtain ⟨rest', hstep⟩ := advance_of_head_empty rest part
    rw [List.foldl_cons, hstep]
    exact ih rest'

/-- Where parts lead out, an empty segment takes the place of the last one of the path. -/
theorem extend_of_leadsOut {front : List String} (hfront : ∃ segment ∈ front, segment ≠ "")
    {last : String} (hlast : isDrive last = false) {parts : List (List Char)}
    (h : LeadsOut parts) : ∃ rest, extend (front ++ [last]) parts = front ++ "" :: rest := by
  induction parts with
  | nil => exact absurd h id
  | cons part parts ih =>
    have hextend : extend (front ++ [last]) (part :: parts) =
        extend (push (front ++ [last]) part) parts := rfl
    rw [hextend, push_eq_advance (append_ne_root hfront [last])]
    rcases h with hup | ⟨hpassed, hrest⟩
    · have hparent : parent [last] = [] := by
        simp only [parent, List.getLast?_singleton, hlast]
        rfl
      obtain ⟨rest, hfold⟩ := foldl_advance_of_head_empty parts []
      refine ⟨rest, ?_⟩
      rw [advance_append front (.inl (List.cons_ne_nil last [])), advance, if_pos hup, hparent,
        List.nil_append, extend_append hfront (List.cons_ne_nil "" []), hfold]
    · rw [advance_of_isPassedOver _ hpassed]
      exact ih hrest

/-! ### What segments spell -/

/-- The bytes that a segment stands for. -/
def spelled (segment : String) : Bytes := Percent.decode (utf8 segment)

/-- Bytes joined by slashes. -/
def joined (pieces : List Bytes) : Bytes := [0x2F].intercalate pieces

theorem spelled_written (part : List Char) : spelled (written part) = Utf8.encode part := by
  rw [spelled, written, utf8, String.toList_ofList]
  exact Percent.decode_encode Percent.isClass_segmentKeeps part

theorem length_joined (pieces : List Bytes) :
    (joined pieces).length = (pieces.map List.length).sum + (pieces.length - 1) := by
  unfold joined
  induction pieces with
  | nil => rfl
  | cons piece pieces ih =>
    cases pieces with
    | nil => simp
    | cons next pieces =>
      rw [List.intercalate_cons_cons, List.length_append, List.length_append, ih]
      simp only [List.map_cons, List.sum_cons, List.length_cons, List.length_nil]
      omega

section
variable {part : List Char}

theorem not_leadsUp_of_isLiteral (h : IsLiteral part) : ¬LeadsUp part := by
  rintro ⟨hpassed, hshown⟩
  rw [h.2] at hshown
  exact hpassed (.inr hshown)

theorem addition_of_isLiteral (h : IsLiteral part) : addition part = [written part] := by
  obtain ⟨hpassed, hshown⟩ := h
  have hdot : shown part ≠ ['.'] := by
    rw [hshown]
    exact fun hdot => hpassed (.inl hdot)
  rw [addition, if_neg hpassed, if_neg hdot, hshown]

theorem not_leadsOut_of_isLiteral {parts : List (List Char)}
    (h : ∀ part ∈ parts, IsLiteral part) : ¬LeadsOut parts := by
  cases parts with
  | nil => exact id
  | cons part parts =>
    have hpart := h part List.mem_cons_self
    rintro (hup | ⟨hpassed, -⟩)
    · exact not_leadsUp_of_isLiteral hpart hup
    · exact hpart.1 hpassed

theorem foldl_advance_of_isLiteral {parts : List (List Char)}
    (h : ∀ part ∈ parts, IsLiteral part) (added : List String) :
    parts.foldl advance added = added ++ parts.map written := by
  induction parts generalizing added with
  | nil => exact (List.append_nil added).symm
  | cons part parts ih =>
    have hpart := h part List.mem_cons_self
    have hstep : advance added part = added ++ [written part] := by
      rw [advance, if_neg (not_leadsUp_of_isLiteral hpart), addition_of_isLiteral hpart]
    rw [List.foldl_cons, hstep, ih fun q hq => h q (List.mem_cons_of_mem part hq),
      List.append_assoc]
    rfl

theorem extension_of_isLiteral {parts : List (List Char)}
    (h : ∀ part ∈ parts, IsLiteral part) : extension parts = parts.map written :=
  foldl_advance_of_isLiteral h []

/-- The number of bytes that a path spells, slashes apart. -/
def size (path : List String) : Nat := (path.map fun s => (spelled s).length).sum

/-- What a part falls short of at least, if it is not literal. -/
def loss (part : List Char) : Nat := if IsLiteral part then 0 else 1

theorem size_append (path added : List String) : size (path ++ added) = size path + size added := by
  simp only [size, List.map_append, List.sum_append]

theorem size_singleton (segment : String) : size [segment] = (spelled segment).length :=
  List.sum_singleton

theorem size_parent_le (path : List String) :
    size (parent path) ≤ size path ∧ (parent path).length ≤ path.length := by
  rcases List.eq_nil_or_concat path with rfl | ⟨front, last, rfl⟩
  · exact ⟨Nat.le_refl _, Nat.le_refl _⟩
  · rw [List.concat_eq_append, parent, List.getLast?_concat]
    simp only [List.dropLast_concat]
    split
    · exact ⟨Nat.le_refl _, Nat.le_refl _⟩
    · rw [size_append, List.length_append]
      exact ⟨Nat.le_add_right _ _, Nat.le_add_right _ _⟩

theorem length_encode_shown (h : shown part ≠ part) :
    (Utf8.encode (shown part)).length < (Utf8.encode part).length := by
  have hsub : List.Sublist (Utf8.encode (shown part)) (Utf8.encode part) :=
    List.Sublist.flatMap List.filter_sublist Utf8.encodeChar
  refine Nat.lt_of_le_of_ne hsub.length_le fun hlength => ?_
  exact h (Utf8.encode_inj.1 (hsub.eq_of_length hlength))

theorem length_encode_of_isPassedOver (h : IsPassedOver part) : 0 < (Utf8.encode part).length := by
  rcases h with rfl | rfl
  · decide
  · decide

theorem size_addition_le (part : List Char) :
    size (addition part) + loss part ≤ (Utf8.encode part).length ∧ (addition part).length ≤ 1 := by
  by_cases hpassed : IsPassedOver part
  · have hliteral : ¬IsLiteral part := fun h => h.1 hpassed
    rw [addition, if_pos hpassed, loss, if_neg hliteral]
    exact ⟨length_encode_of_isPassedOver hpassed, Nat.zero_le 1⟩
  · by_cases hshown : shown part = part
    · have hliteral : IsLiteral part := ⟨hpassed, hshown⟩
      rw [addition_of_isLiteral hliteral, size_singleton, spelled_written, loss, if_pos hliteral]
      exact ⟨Nat.le_refl _, Nat.le_refl _⟩
    · have hliteral : ¬IsLiteral part := fun h => hshown h.2
      have hshorter := length_encode_shown hshown
      rw [addition, if_neg hpassed, loss, if_neg hliteral]
      split
      · exact ⟨Nat.zero_lt_of_lt hshorter, Nat.le_refl _⟩
      · rw [size_singleton, spelled_written]
        exact ⟨hshorter, Nat.le_refl _⟩

theorem size_advance_le (added : List String) (part : List Char) :
    size (advance added part) + loss part ≤ size added + (Utf8.encode part).length ∧
      (advance added part).length ≤ added.length + 1 := by
  unfold advance
  split
  · next hup =>
    obtain ⟨hsize, hlength⟩ := size_parent_le added
    have hempty : size [""] = 0 := by decide
    have hloss : loss part = 1 := if_neg fun h => not_leadsUp_of_isLiteral h hup
    have hshown : shown part ≠ part := fun h => hup.1 (.inr (h ▸ hup.2))
    have hshorter := length_encode_shown hshown
    rw [size_append, List.length_append, hempty]
    exact ⟨by omega, Nat.add_le_add_right hlength 1⟩
  · obtain ⟨hsize, hlength⟩ := size_addition_le part
    rw [size_append, List.length_append]
    exact ⟨by omega, by omega⟩

theorem size_foldl_advance_le (added : List String) (parts : List (List Char)) :
    size (parts.foldl advance added) + (parts.map loss).sum ≤
        size added + (parts.map fun part => (Utf8.encode part).length).sum ∧
      (parts.foldl advance added).length ≤ added.length + parts.length := by
  induction parts generalizing added with
  | nil => exact ⟨Nat.le_refl _, Nat.le_refl _⟩
  | cons part parts ih =>
    obtain ⟨hsize, hlength⟩ := size_advance_le added part
    obtain ⟨hsizes, hlengths⟩ := ih (advance added part)
    simp only [List.foldl_cons, List.map_cons, List.sum_cons, List.length_cons]
    exact ⟨by omega, by omega⟩

end

/-- The segments spell the parts, with slashes between, if and only if every part is literal. -/
theorem joined_extension_iff (parts : List (List Char)) :
    joined ((extension parts).map spelled) = joined (parts.map Utf8.encode) ↔
      ∀ part ∈ parts, IsLiteral part := by
  constructor
  · intro h part hpart
    by_contra hliteral
    -- a part that is not literal falls short of a byte at least, which no other part makes up for
    obtain ⟨hsize, hcount⟩ := size_foldl_advance_le [] parts
    have hloss : 0 < (parts.map loss).sum := by
      have hone : loss part = 1 := if_neg hliteral
      refine List.sum_pos_iff_exists_pos_nat.2 ⟨loss part, List.mem_map_of_mem hpart, ?_⟩
      rw [hone]
      exact Nat.one_pos
    have hlength := congrArg List.length h
    rw [length_joined, length_joined, List.map_map, List.map_map, List.length_map,
      List.length_map] at hlength
    change size (extension parts) + _ = (parts.map fun part => (Utf8.encode part).length).sum + _
      at hlength
    change size (extension parts) + _ ≤ 0 + _ at hsize
    change (extension parts).length ≤ 0 + _ at hcount
    omega
  · intro h
    have hspelled : spelled ∘ written = Utf8.encode := funext spelled_written
    rw [extension_of_isLiteral h, List.map_map, hspelled]

end NetDelegate.Path
