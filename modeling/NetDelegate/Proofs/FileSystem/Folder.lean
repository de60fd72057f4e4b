/-
  NetDelegate/Proofs/FileSystem/Folder.lean
  =========================================
  **What is in a folder.**  The names of a folder stay distinct when nodes are put there and removed
  (`nodup_names_put`, `nodup_names_remove`), and with distinct names the nodes are those that
  look-ups find (`mem_iff_find?_eq_some`).
-/
import NetDelegate.FileSystem.Path

namespace NetDelegate

namespace Place

/-- The nodes of the folder at a place; where there is no folder there are none. -/
def entries : Place → Entries
  | .present (.folder _ es) => es
  | _ => []

/-- What is under a name of the folder at a place. -/
def find? (place : Place) (name : FileName) : Option Node := place.entries.find? name

@[simp]
theorem find?_folder (mode : Nat) (es : Entries) (name : FileName) :
    find? (.present (.folder mode es)) name = es.find? name := rfl

/-- Something is found in folders only. -/
theorem exists_folder_of_find? {place : Place} {name : FileName} {node : Node}
    (h : place.find? name = some node) : ∃ mode es, place = .present (.folder mode es) := by
  match place with
  | .blocked e => cases h
  | .missing => cases h
  | .present (.file _ _) => cases h
  | .present (.link _) => cases h
  | .present (.folder mode es) => exact ⟨mode, es, rfl⟩

end Place

namespace Entries

/-- A node that was put under a name and removed again leaves no trace. -/
theorem remove_put (es : Entries) (name : FileName) (node : Node) :
    (es.put name node).remove name = es.remove name := by
  induction es with
  | nil => simp [put, remove]
  | cons e es ih =>
    simp only [put]
    split
    · next h => simp [remove, h]
    · next h =>
      simp only [remove] at ih ⊢
      rw [List.filter_cons, List.filter_cons, ih]

theorem find?_append_of_none {es : Entries} {name : FileName} (h : es.find? name = none)
    (others : Entries) : Entries.find? (es ++ others) name = others.find? name := by
  induction es with
  | nil => rfl
  | cons e es ih =>
    simp only [Entries.find?] at h
    split at h
    · cases h
    · next hne => rw [List.cons_append, Entries.find?, if_neg hne, ih h]

/-- The names, in the order of the nodes. -/
def names (es : Entries) : List FileName := es.map (·.1)

/-- With distinct names the nodes of a folder are those that look-ups find. -/
theorem mem_iff_find?_eq_some {es : Entries} (h : es.names.Nodup) {name : FileName} {node : Node} :
    (name, node) ∈ es ↔ es.find? name = some node := by
  induction es with
  | nil => simp [find?]
  | cons e es ih =>
    obtain ⟨other, there⟩ := e
    obtain ⟨hnot, hrest⟩ := List.nodup_cons.1 h
    simp only [List.mem_cons, Prod.mk.injEq, find?]
    split
    · next heq =>
      subst heq
      constructor
      · rintro (⟨-, rfl⟩ | hmem)
        · rfl
        · exact absurd (List.mem_map_of_mem hmem) hnot
      · intro hsome
        exact .inl ⟨rfl, (Option.some.inj hsome).symm⟩
    · next hne =>
      rw [← ih hrest]
      constructor
      · rintro (⟨rfl, -⟩ | hmem)
        · exact absurd rfl hne
        · exact hmem
      · exact .inr

theorem mem_names_put {es : Entries} {name other : FileName} {node : Node}
    (h : other ∈ (es.put name node).names) : other = name ∨ other ∈ es.names := by
  induction es with
  | nil => exact .inl (by simpa [put, names] using h)
  | cons e es ih =>
    simp only [put] at h
    split at h
    · next heq => simpa [names, heq] using h
    · rcases List.mem_cons.1 h with rfl | h
      · exact .inr (by simp [names])
      · exact (ih h).imp_right (List.mem_cons_of_mem e.1)

theorem nodup_names_put {es : Entries} (h : es.names.Nodup) (name : FileName) (node : Node) :
    (es.put name node).names.Nodup := by
  induction es with
  | nil => simp [put, names]
  | cons e es ih =>
    obtain ⟨hnot, hrest⟩ := List.nodup_cons.1 h
    simp only [put]
    split
    · next heq => exact List.nodup_cons.2 ⟨heq ▸ hnot, hrest⟩
    · next hne =>
      refine List.nodup_cons.2 ⟨?_, ih hrest⟩
      intro hmem
      rcases mem_names_put hmem with heq | hin
      · exact hne heq
      · exact hnot hin

theorem nodup_names_remove {es : Entries} (h : es.names.Nodup) (name : FileName) :
    (es.remove name).names.Nodup :=
  h.sublist (List.Sublist.map _ List.filter_sublist)

end Entries

end NetDelegate
