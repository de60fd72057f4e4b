/-
  NetDelegate/Proofs/Plugin/Search.lean
  =====================================
  **Looking for a plugin does not leave the search path.**  What is found is the file of that name in
  the first folder that has one, and nothing is found for a text that is no name of a file
  (`find_eq_ok_iff`, `find_eq_error_iff`).  So the file of every process that is started stands
  directly in a folder of the path, whatever the plugin is called (`find_stays_inside`).
-/
import NetDelegate.Proofs.FileSystem.Path
import NetDelegate.Proofs.Plugin.Start

namespace NetDelegate.Plugin

/-! ### Names and paths -/

/-- The text can be the name of a file in a folder. -/
structure IsFileName (name : String) : Prop where
  ne_empty : name ≠ ""
  slash_notMem : '/' ∉ name.toList
  ne_here : name ≠ "."
  ne_above : name ≠ ".."

theorem isFileName_iff {name : String} : isFileName name = true ↔ IsFileName name := by
  simp only [isFileName, Bool.and_eq_true, decide_eq_true_eq, Bool.not_eq_true',
    Bool.eq_false_iff, ne_eq, List.contains_iff_mem]
  constructor
  · rintro ⟨⟨⟨hne, hslash⟩, hhere⟩, habove⟩
    exact ⟨hne, hslash, hhere, habove⟩
  · rintro ⟨hne, hslash, hhere, habove⟩
    exact ⟨⟨⟨hne, hslash⟩, hhere⟩, habove⟩

theorem IsFileName.isName {name : String} (h : IsFileName name) : FileSystem.IsName (utf8 name) :=
  FileSystem.isName_utf8_iff.2 ⟨h.ne_empty, h.slash_notMem, h.ne_here, h.ne_above⟩

/-- The path of a plugin is that of its name in the folder. -/
theorem utf8_pathIn {name : String} (h : IsFileName name) (folder : String) :
    utf8 (pathIn folder name) = FileSystem.join (utf8 folder) (utf8 name) := by
  have hlast : (utf8 folder).getLast? = some FileSystem.separator ↔
      folder.toList.getLast? = some '/' := Utf8.getLast?_encode_iff (c := '/') (by decide)
  have hslash : utf8 "/" = [FileSystem.separator] := by decide
  by_cases hempty : folder = ""
  · rw [pathIn, if_pos hempty, FileSystem.join, h.isName.isAbsolute_eq, hempty]
    rfl
  · have hne : utf8 folder ≠ [] := fun hnil => hempty (FileSystem.utf8_eq_nil_iff.1 hnil)
    rw [pathIn, if_neg hempty, FileSystem.join_of_ne_nil h.isName hne]
    by_cases hend : folder.toList.getLast? = some '/'
    · rw [if_pos hend, if_pos (hlast.2 hend), utf8_append]
    · rw [if_neg hend, if_neg (mt hlast.1 hend), utf8_append, utf8_append, hslash,
        List.append_assoc, List.singleton_append]

/-! ### The first folder -/

/-- There is a file of this name in the folder. -/
def Holds (isFile : Bytes → Bool) (name folder : String) : Prop :=
  isFile (FileSystem.join (utf8 folder) (utf8 name)) = true

/-- The file of this name in the first folder of the path that has one. -/
def IsFirst (isFile : Bytes → Bool) (name : String) (path : SearchPath) (file : String) : Prop :=
  ∃ before folder after, path = before ++ folder :: after ∧ Holds isFile name folder ∧
    (∀ other ∈ before, ¬Holds isFile name other) ∧ file = pathIn folder name

section
variable {isFile : Bytes → Bool} {name : String} {path : SearchPath}

theorem find_of_isFileName (h : IsFileName name) :
    find isFile name path =
      match path.find? fun folder => isFile (FileSystem.join (utf8 folder) (utf8 name)) with
      | some folder => .ok (pathIn folder name)
      | none => .error (.pluginNotFound name (":".intercalate path)) := by
  rw [find, if_pos (isFileName_iff.2 h), SearchPath.text_eq_intercalate, List.find?_map]
  simp only [Function.comp_def, utf8_pathIn h]
  split
  · next hsome =>
    obtain ⟨folder, hfolder, rfl⟩ := Option.map_eq_some_iff.1 hsome
    rw [hfolder]
  · next hnone => rw [Option.map_eq_none_iff.1 hnone]

theorem find_of_not_isFileName (h : ¬IsFileName name) :
    find isFile name path = .error (.pluginNotFound name (":".intercalate path)) := by
  rw [find, if_neg (mt isFileName_iff.1 h), SearchPath.text_eq_intercalate]

/-- **What is found** is the file in the first folder that has it. -/
theorem find_eq_ok_iff {file : String} :
    find isFile name path = .ok file ↔ IsFileName name ∧ IsFirst isFile name path file := by
  by_cases hname : IsFileName name
  · rw [find_of_isFileName hname, and_iff_right hname]
    constructor
    · intro h
      split at h
      · next folder hfind =>
        cases h
        obtain ⟨hfolder, before, after, hpath, hbefore⟩ := List.find?_eq_some_iff_append.1 hfind
        refine ⟨before, folder, after, hpath, hfolder, ?_, rfl⟩
        intro other hother hholds
        have hfile : isFile (FileSystem.join (utf8 other) (utf8 name)) = true := hholds
        have hnot := hbefore other hother
        rw [hfile] at hnot
        cases hnot
      · cases h
    · rintro ⟨before, folder, after, rfl, hfolder, hbefore, rfl⟩
      have hfind : (before ++ folder :: after).find?
          (fun folder => isFile (FileSystem.join (utf8 folder) (utf8 name))) = some folder := by
        refine List.find?_eq_some_iff_append.2 ⟨hfolder, before, after, rfl, ?_⟩
        intro other hother
        rw [Bool.not_eq_true', Bool.eq_false_iff]
        exact hbefore other hother
      rw [hfind]
  · rw [find_of_not_isFileName hname]
    exact iff_of_false nofun fun h => hname h.1

/-- **Nothing is found** where no folder has the file, and the error tells the whole path. -/
theorem find_eq_error_iff {e : Error} :
    find isFile name path = .error e ↔
      ¬(IsFileName name ∧ ∃ folder ∈ path, Holds isFile name folder) ∧
        e = .pluginNotFound name (":".intercalate path) := by
  by_cases hname : IsFileName name
  · rw [find_of_isFileName hname, and_iff_right hname]
    cases hfind : path.find? fun folder => isFile (FileSystem.join (utf8 folder) (utf8 name)) with
    | some folder =>
      have hfolder := List.find?_some hfind
      exact iff_of_false nofun fun h => h.1 ⟨folder, List.mem_of_find?_eq_some hfind, hfolder⟩
    | none =>
      have hnone : ¬∃ folder ∈ path, Holds isFile name folder := by
        rintro ⟨folder, hmem, hholds⟩
        exact List.find?_eq_none.1 hfind folder hmem hholds
      rw [and_iff_right hnone, Except.error.injEq, eq_comm]
  · rw [find_of_not_isFileName hname, and_iff_right fun h => hname h.1, Except.error.injEq, eq_comm]

end

/-! ### Main result -/

/-- **The search does not leave the path.**  Let the files be any, and the plugin be called
    anything.  What is found is the file of that name in the first folder of the path that has one;
    it is missed exactly if there is none or the name is not one of a file, and then the error tells
    the folders in order.  The path of what is found, and of any process that is started, is that of
    a folder of the path with the one name behind it.  In a tree of files, a folder has the file
    if the folder is there and has the name, for a file or for a link that leads to one. -/
theorem find_stays_inside (isFile : Bytes → Bool) (name : String) (path : SearchPath) :
    (∀ file, find isFile name path = .ok file ↔ IsFileName name ∧ IsFirst isFile name path file) ∧
    (∀ e, find isFile name path = .error e ↔
      ¬(IsFileName name ∧ ∃ folder ∈ path, Holds isFile name folder) ∧
        e = .pluginNotFound name (":".intercalate path)) ∧
    (∀ file, find isFile name path = .ok file →
      ∃ folder ∈ path, FileSystem.IsChild (utf8 folder) (utf8 file) (utf8 name)) ∧
    (∀ call i, call.plugin = name → call.context.path = path → invocation isFile call = .ok i →
      find isFile name path = .ok i.binary) ∧
    ∀ root folder, isFile = FileSystem.isFile root → IsFileName name → folder ≠ "" →
      (Holds isFile name folder ↔ FileSystem.HasFile root (utf8 folder) (utf8 name)) := by
  refine ⟨fun _ => find_eq_ok_iff, fun _ => find_eq_error_iff, ?_, ?_, ?_⟩
  · intro file h
    obtain ⟨hname, before, folder, after, rfl, -, -, rfl⟩ := find_eq_ok_iff.1 h
    refine ⟨folder, List.mem_append_right _ List.mem_cons_self, ?_⟩
    rw [utf8_pathIn hname]
    exact FileSystem.isChild_join hname.isName
  · rintro call i rfl rfl h
    exact (invocation_eq_ok_iff.1 h).binary_found
  · rintro root folder rfl hname hfolder
    exact FileSystem.isFile_join_iff hname.isName fun hnil => hfolder (FileSystem.utf8_eq_nil_iff.1 hnil)

end NetDelegate.Plugin
