/-
  NetDelegate/Text/Split.lean
  ===========================
  **Cutting a list at separators.**  `splitWhere p` cuts at every element of the class `p` and
  keeps the pieces between, empty ones too, so that there is always one piece more than there
  are separators.
-/

namespace NetDelegate

/-- Cuts a list at each element of the class `p`; the pieces between are kept, empty ones too. -/
def splitWhere {α : Type} (p : α → Bool) : List α → List (List α)
  | [] => [[]]
  | x :: xs =>
    if p x then [] :: splitWhere p xs
    else match splitWhere p xs with
      | [] => [[x]]
      | piece :: pieces => (x :: piece) :: pieces

/-- There is always a piece. -/
theorem splitWhere_ne_nil {α : Type} (p : α → Bool) (xs : List α) : splitWhere p xs ≠ [] := by
  cases xs with
  | nil => simp [splitWhere]
  | cons x xs =>
    simp only [splitWhere]
    split
    · simp
    · split <;> simp

/-- No piece has a separator. -/
theorem notMem_of_mem_splitWhere {α : Type} {p : α → Bool} {xs piece : List α}
    (h : piece ∈ splitWhere p xs) {x : α} (hx : p x = true) : x ∉ piece := by
  induction xs generalizing piece with
  | nil =>
    rw [splitWhere, List.mem_singleton] at h
    rw [h]
    exact List.not_mem_nil
  | cons y ys ih =>
    simp only [splitWhere] at h
    split at h
    · rcases List.mem_cons.1 h with rfl | h
      · exact List.not_mem_nil
      · exact ih h
    · next hy =>
      have hne : x ≠ y := fun heq => hy (heq ▸ hx)
      split at h
      · next hnil => exact absurd hnil (splitWhere_ne_nil p ys)
      · next first pieces hsplit =>
        rw [hsplit] at ih
        rcases List.mem_cons.1 h with rfl | h
        · intro hmem
          rcases List.mem_cons.1 hmem with heq | hmem
          · exact hne heq
          · exact ih List.mem_cons_self hmem
        · exact ih (List.mem_cons_of_mem first h)

/-- What is cut at one separator is cut before it and behind it. -/
theorem splitWhere_append_cons {α : Type} {p : α → Bool} {separator : α} (h : p separator = true)
    (xs ys : List α) :
    splitWhere p (xs ++ separator :: ys) = splitWhere p xs ++ splitWhere p ys := by
  induction xs with
  | nil => simp only [List.nil_append, splitWhere, h, if_true, List.cons_append]
  | cons x xs ih =>
    rw [List.cons_append, splitWhere, splitWhere, ih]
    split
    · rfl
    · cases hpieces : splitWhere p xs with
      | nil => exact absurd hpieces (splitWhere_ne_nil p xs)
      | cons piece pieces => rfl

/-- A list without separators is one piece. -/
theorem splitWhere_of_notMem {α : Type} {p : α → Bool} {xs : List α}
    (h : ∀ x ∈ xs, p x = false) : splitWhere p xs = [xs] := by
  induction xs with
  | nil => rfl
  | cons x xs ih =>
    rw [splitWhere, ih fun y hy => h y (List.mem_cons_of_mem x hy), h x List.mem_cons_self]
    rfl

/-- Cutting at one separator is cutting as lists are usually cut. -/
theorem splitWhere_eq_splitOn {α : Type} [DecidableEq α] (separator : α) (xs : List α) :
    splitWhere (· = separator) xs = xs.splitOn separator := by
  rw [List.splitOn_eq_splitOnP]
  induction xs with
  | nil => rfl
  | cons x xs ih =>
    rw [List.splitOnP_cons_eq_if_modifyHead, splitWhere, ih]
    cases hsplit : xs.splitOnP (· == separator) with
    | nil => exact absurd hsplit (List.splitOnP_ne_nil _ xs)
    | cons piece pieces => rfl

end NetDelegate
