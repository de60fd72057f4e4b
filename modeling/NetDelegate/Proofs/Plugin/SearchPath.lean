/-
  NetDelegate/Proofs/Plugin/SearchPath.lean
  =========================================
  **A search path is read as it was written.**  The folders of a written path are its pieces
  between separators, without those that are empty (`ofText_eq`).  So none of them has a separator
  in its name, and the path can be written again (`joined?_ofText`); what is written is read as the
  same folders (`ofText_intercalate_ofText`).
-/
import NetDelegate.Plugin.Context

namespace NetDelegate.SearchPath

theorem text_eq_intercalate (p : SearchPath) : p.text = ":".intercalate p := by
  rw [← String.toList_inj, text, String.toList_ofList, String.toList_intercalate]
  rfl

/-- A path can be written if no folder has the separator in its name. -/
theorem joined?_eq_some_iff {p : SearchPath} {s : String} :
    p.joined? = some s ↔ (∀ folder ∈ p, separator ∉ folder.toList) ∧ s = ":".intercalate p := by
  rw [joined?, ← text_eq_intercalate]
  by_cases h : (p.any fun folder => folder.toList.contains separator) = true
  · rw [if_pos h]
    obtain ⟨folder, hmem, hseparator⟩ := List.any_eq_true.1 h
    refine iff_of_false nofun fun hnone => ?_
    exact hnone.1 folder hmem (List.contains_iff_mem.1 hseparator)
  · rw [if_neg h, Option.some.injEq]
    have hnone : ∀ folder ∈ p, separator ∉ folder.toList := by
      intro folder hmem hseparator
      exact h (List.any_eq_true.2 ⟨folder, hmem, List.contains_iff_mem.2 hseparator⟩)
    rw [and_iff_right hnone, eq_comm]

/-! ### Written paths -/

/-- The folders of a written path are its pieces that are not empty, in order. -/
theorem ofText_eq (s : String) :
    ofText s = ((s.toList.splitOn ':').filter (· ≠ [])).map String.ofList := by
  have hsplit : splitWhere (· = separator) s.toList = s.toList.splitOn ':' :=
    splitWhere_eq_splitOn ':' s.toList
  rw [ofText, hsplit]

theorem separator_notMem_of_mem_ofText {s folder : String} (h : folder ∈ ofText s) :
    separator ∉ folder.toList := by
  obtain ⟨piece, hpiece, rfl⟩ := List.mem_map.1 h
  rw [String.toList_ofList]
  exact notMem_of_mem_splitWhere (List.mem_filter.1 hpiece).1 (decide_eq_true rfl)

theorem ne_empty_of_mem_ofText {s folder : String} (h : folder ∈ ofText s) : folder ≠ "" := by
  obtain ⟨piece, hpiece, rfl⟩ := List.mem_map.1 h
  intro hempty
  have hnil : piece = [] := by simpa using congrArg String.toList hempty
  exact of_decide_eq_true (List.mem_filter.1 hpiece).2 hnil

/-- A written path can be written again. -/
theorem joined?_ofText (s : String) : (ofText s).joined? = some (":".intercalate (ofText s)) :=
  joined?_eq_some_iff.2 ⟨fun _ => separator_notMem_of_mem_ofText, rfl⟩

/-- Folders that have names, without separators in them, are read as they were written. -/
theorem ofText_intercalate {p : SearchPath} (hne : ∀ folder ∈ p, folder ≠ "")
    (hseparator : ∀ folder ∈ p, separator ∉ folder.toList) : ofText (":".intercalate p) = p := by
  cases p with
  | nil => decide
  | cons first p =>
    have hsplit : (":".intercalate (first :: p)).toList.splitOn ':' =
        (first :: p).map String.toList := by
      rw [String.toList_intercalate]
      exact List.splitOn_intercalate ':' (List.forall_mem_map.2 hseparator) (List.cons_ne_nil _ _)
    have hkept : ((first :: p).map String.toList).filter (· ≠ []) =
        (first :: p).map String.toList := by
      rw [List.filter_eq_self, List.forall_mem_map]
      intro folder hmem
      have hnil : folder.toList ≠ [] := fun h => hne folder hmem (String.toList_eq_nil_iff.1 h)
      exact decide_eq_true hnil
    rw [ofText_eq, hsplit, hkept, List.map_map]
    exact List.map_id'' (fun folder => String.ofList_toList) _

/-- **A path is read again as the same folders** after it was read and written. -/
theorem ofText_intercalate_ofText (s : String) : ofText (":".intercalate (ofText s)) = ofText s :=
  ofText_intercalate (fun _ => ne_empty_of_mem_ofText) fun _ => separator_notMem_of_mem_ofText

/-- Separators at the ends, and repeated ones, are not written again. -/
example : ":".intercalate (ofText ":/opt/bin::/bin:") = "/opt/bin:/bin" := by decide +kernel

end NetDelegate.SearchPath
