/-
  NetDelegate/Proofs/FileSystem/Path.lean
  =======================================
  **Paths of what stands in a folder.**  The path of a name in a folder is the path of the folder
  with that one name behind it (`isChild_join`), so whoever follows it passes the folder and takes
  one step more.  There is a file at its end just when the folder is there and has the name, for a
  file or for a link that leads to one (`isFile_join_iff`).
-/
import NetDelegate.Proofs.FileSystem.Folder
import NetDelegate.Proofs.Text.Utf8

namespace NetDelegate.FileSystem

/-! ### Names in paths -/

/-- The name can be that of something in a folder: it has no separator, and is neither empty nor
    one of the names for the folder itself and the one above. -/
structure IsName (name : FileName) : Prop where
  ne_nil : name ≠ []
  separator_notMem : separator ∉ name
  ne_here : name ≠ utf8 "."
  ne_above : name ≠ utf8 ".."

theorem utf8_eq_nil_iff {s : String} : utf8 s = [] ↔ s = "" :=
  utf8_inj (t := "")

theorem separator_mem_utf8_iff {s : String} : separator ∈ utf8 s ↔ '/' ∈ s.toList :=
  Utf8.code_mem_encode_iff (c := '/') (by decide)

theorem isName_utf8_iff {s : String} :
    IsName (utf8 s) ↔ s ≠ "" ∧ '/' ∉ s.toList ∧ s ≠ "." ∧ s ≠ ".." := by
  have hiff : IsName (utf8 s) ↔
      utf8 s ≠ [] ∧ separator ∉ utf8 s ∧ utf8 s ≠ utf8 "." ∧ utf8 s ≠ utf8 ".." :=
    ⟨fun ⟨hne, hseparator, hhere, habove⟩ => ⟨hne, hseparator, hhere, habove⟩,
      fun ⟨hne, hseparator, hhere, habove⟩ => ⟨hne, hseparator, hhere, habove⟩⟩
  rw [hiff, ne_eq, utf8_eq_nil_iff, separator_mem_utf8_iff, ne_eq, utf8_inj, ne_eq, utf8_inj]

/-- The path is that of the folder with one name behind it. -/
structure IsChild (folder path : Bytes) (name : FileName) : Prop where
  isName : IsName name
  names_eq : names path = names folder ++ [name]
  isAbsolute_eq : folder ≠ [] → isAbsolute path = isAbsolute folder

section
variable {folder path : Bytes} {name : FileName}

theorem IsChild.names_ne (h : IsChild folder path name) : names path ≠ names folder := by
  intro heq
  have hlength := congrArg List.length (h.names_eq.symm.trans heq)
  rw [List.length_append, List.length_singleton] at hlength
  omega

theorem IsChild.names_ne_dropLast (h : IsChild folder path name) :
    names path ≠ (names folder).dropLast := by
  intro heq
  have hlength := congrArg List.length (h.names_eq.symm.trans heq)
  rw [List.length_append, List.length_singleton, List.length_dropLast] at hlength
  omega

end

theorem splitWhere_separator (path : Bytes) :
    splitWhere (· = separator) path = path.splitOn separator :=
  splitWhere_eq_splitOn separator path

/-- A separator cuts a path in two. -/
theorem names_append_separator (front back : Bytes) :
    names (front ++ separator :: back) = names front ++ names back := by
  simp only [names, splitWhere_separator, List.splitOn_append_cons_self, List.filter_append]

theorem names_nil : names [] = [] := rfl

theorem IsName.names_eq {name : FileName} (h : IsName name) : names name = [name] := by
  rw [names, splitWhere_separator, List.splitOn_eq_singleton h.separator_notMem]
  simp [h.ne_nil, h.ne_here]

theorem IsName.isAbsolute_eq {name : FileName} (h : IsName name) : isAbsolute name = false := by
  cases name with
  | nil => rfl
  | cons b bs =>
    have hb : b ≠ separator := fun heq => h.separator_notMem (heq ▸ List.mem_cons_self)
    simp [isAbsolute, hb]

theorem isAbsolute_append {folder : Bytes} (h : folder ≠ []) (bs : Bytes) :
    isAbsolute (folder ++ bs) = isAbsolute folder := by
  cases folder with
  | nil => exact absurd rfl h
  | cons b folder => rfl

section
variable {folder : Bytes} {name : FileName} (h : IsName name)
include h

theorem join_of_ne_nil (hfolder : folder ≠ []) :
    join folder name =
      if folder.getLast? = some separator then folder ++ name else folder ++ separator :: name := by
  rw [join, h.isAbsolute_eq, if_neg Bool.false_ne_true, if_neg hfolder]

theorem names_join : names (join folder name) = names folder ++ [name] := by
  by_cases hfolder : folder = []
  · rw [join, h.isAbsolute_eq, if_neg Bool.false_ne_true, if_pos hfolder, h.names_eq, hfolder]
    rfl
  · rw [join_of_ne_nil h hfolder]
    split
    · next hlast =>
      -- the separator at the end of the folder has nothing behind it
      obtain ⟨front, rfl⟩ := List.getLast?_eq_some_iff.1 hlast
      rw [List.append_assoc, List.singleton_append, names_append_separator, names_append_separator,
        names_nil, List.append_nil, h.names_eq]
    · rw [names_append_separator, h.names_eq]

/-- **The path of a name in a folder** has that name behind the folder's. -/
theorem isChild_join : IsChild folder (join folder name) name := by
  refine ⟨h, names_join h, ?_⟩
  intro hfolder
  rw [join_of_ne_nil h hfolder]
  split <;> exact isAbsolute_append hfolder _

end

/-! ### Following paths -/

section
variable {root : Node} {links : Nat} {here : List FileName} {n : FileName} {rest : List FileName}
  {mode : Nat} {entries : Entries}

/-- One name is followed in a folder. -/
theorem follow_cons (hnode : nodeAt? root here = some (.folder mode entries)) :
    follow root links here (n :: rest) =
      if n = utf8 ".." then follow root links here.dropLast rest
      else if maxNameLength < n.length then .blocked .nameTooLong
      else match entries.find? n, links with
        | none, _ => .missing here (n :: rest)
        | some (.link _), 0 => .blocked .tooManyLinks
        | some (.link target), links + 1 =>
          follow root links (if isAbsolute target then [] else here) (names target ++ rest)
        | some _, links => follow root links (here ++ [n]) rest := by
  rw [follow.eq_def, hnode]
  dsimp only
  split
  · rfl
  · split
    · rfl
    · cases hfind : entries.find? n with
      | none => rfl
      | some node =>
        cases node with
        | file data fileMode => rfl
        | folder folderMode es => rfl
        | link target =>
          cases links with
          | zero => rfl
          | succ links => rfl

theorem follow_of_not_folder
    (hnode : ∀ mode entries, nodeAt? root here ≠ some (.folder mode entries)) :
    follow root links here (n :: rest) = .blocked .notDirectory := by
  rw [follow.eq_def]
  dsimp only
  split
  · next hfolder => exact absurd hfolder (hnode _ _)
  · rfl

end

/-- Names are followed one part after the other; the links that the first part passes are not left
    for the second. -/
theorem follow_append (root : Node) (links : Nat) (here front : List FileName) :
    ∃ left ≤ links, ∀ back, follow root links here (front ++ back) =
      match follow root links here front with
      | .found there => follow root left there back
      | .missing there rest => .missing there (rest ++ back)
      | .blocked e => .blocked e := by
  -- by the recursion of `follow`: the names of a target take the place of the name of the link
  fun_induction follow root links here front with
  | case1 links here => exact ⟨links, Nat.le_refl links, fun back => rfl⟩
  | case2 links here rest mode entries hnode ih =>
    obtain ⟨left, hleft, hback⟩ := ih
    refine ⟨left, hleft, fun back => ?_⟩
    rw [List.cons_append, follow_cons hnode, if_pos rfl, hback]
  | case3 links here n rest mode entries hnode hn hlong =>
    refine ⟨links, Nat.le_refl links, fun back => ?_⟩
    rw [List.cons_append, follow_cons hnode, if_neg hn, if_pos hlong]
  | case4 links here n rest mode entries hnode hn hlong hfind =>
    refine ⟨links, Nat.le_refl links, fun back => ?_⟩
    rw [List.cons_append, follow_cons hnode, if_neg hn, if_neg hlong, hfind]
    rfl
  | case5 here n rest mode entries hnode hn hlong target hfind =>
    refine ⟨0, Nat.le_refl 0, fun back => ?_⟩
    rw [List.cons_append, follow_cons hnode, if_neg hn, if_neg hlong, hfind]
  | case6 here n rest mode entries hnode hn hlong target hfind links ih =>
    obtain ⟨left, hleft, hback⟩ := ih
    refine ⟨left, Nat.le_succ_of_le hleft, fun back => ?_⟩
    rw [List.cons_append, follow_cons hnode, if_neg hn, if_neg hlong, hfind]
    have htarget := hback back
    rw [List.append_assoc] at htarget
    exact htarget
  | case7 links here n rest mode entries hnode hn hlong node hlink hfind ih =>
    obtain ⟨left, hleft, hback⟩ := ih
    refine ⟨left, hleft, fun back => ?_⟩
    rw [List.cons_append, follow_cons hnode, if_neg hn, if_neg hlong, hfind]
    split
    · next heq => cases heq
    · next heq => exact absurd (Option.some.inj heq) (hlink _)
    · next heq => exact absurd (Option.some.inj heq) (hlink _)
    · exact hback back
  | case8 links here n rest hnode =>
    refine ⟨links, Nat.le_refl links, fun back => ?_⟩
    rw [List.cons_append, follow_of_not_folder hnode]

theorem nodeAt?_append_singleton {root : Node} {here : List FileName} {mode : Nat} {entries : Entries}
    (h : nodeAt? root here = some (.folder mode entries)) (n : FileName) :
    nodeAt? root (here ++ [n]) = entries.find? n := by
  induction here generalizing root with
  | nil =>
    cases h
    rw [List.nil_append, nodeAt?]
    cases entries.find? n with
    | none => rfl
    | some node => rfl
  | cons first here ih =>
    cases root with
    | file data fileMode => cases h
    | link target => cases h
    | folder folderMode es =>
      rw [nodeAt?] at h
      rw [List.cons_append, nodeAt?]
      cases hfirst : Entries.find? es first with
      | none =>
        rw [hfirst] at h
        cases h
      | some node =>
        rw [hfirst] at h
        exact ih h

section
variable {root : Node} {folder : Bytes} {name : FileName}

/-- A name in a folder is reached from where the folder is. -/
theorem reach_join (h : IsName name) (hfolder : folder ≠ []) (root : Node) :
    ∃ left ≤ maxLinks, reach root (join folder name) =
      match reach root folder with
      | .found here => follow root left here [name]
      | .missing there rest => .missing there (rest ++ [name])
      | .blocked e => .blocked e := by
  obtain ⟨left, hleft, hback⟩ := follow_append root maxLinks [] (names folder)
  refine ⟨left, hleft, ?_⟩
  have hpath : join folder name ≠ [] := by
    intro hnil
    have hnames : names (join folder name) = names folder ++ [name] := names_join h
    rw [hnil, names_nil] at hnames
    cases (List.append_eq_nil_iff.1 hnames.symm).2
  rw [reach, if_neg hpath, names_join h, hback, reach, if_neg hfolder]

theorem isFile_iff {path : Bytes} :
    isFile root path = true ↔
      ∃ there data mode, reach root path = .found there ∧
        nodeAt? root there = some (.file data mode) := by
  rw [isFile, place]
  cases reach root path with
  | missing there rest => simp
  | blocked e => simp
  | found there =>
    cases hnode : nodeAt? root there with
    | none => simp [hnode]
    | some node =>
      cases node with
      | file data mode => simp [hnode]
      | folder mode es => simp [hnode]
      | link target => simp [hnode]

/-- What is reached by one name is in a folder under that name, unless the name is a link. -/
theorem exists_folder_of_follow (h : IsName name) {links : Nat} {here there : List FileName}
    (hthere : follow root links here [name] = .found there) :
    ∃ mode entries, nodeAt? root here = some (.folder mode entries) ∧
      name.length ≤ maxNameLength ∧
        (there = here ++ [name] ∨ ∃ target, Entries.find? entries name = some (.link target)) := by
  by_cases hfolder : ∃ mode entries, nodeAt? root here = some (.folder mode entries)
  · obtain ⟨mode, entries, hnode⟩ := hfolder
    rw [follow_cons hnode, if_neg h.ne_above] at hthere
    by_cases hlong : maxNameLength < name.length
    · rw [if_pos hlong] at hthere
      cases hthere
    · rw [if_neg hlong] at hthere
      refine ⟨mode, entries, hnode, Nat.not_lt.1 hlong, ?_⟩
      split at hthere
      · cases hthere
      · cases hthere
      · next target _ hfind => exact .inr ⟨target, hfind⟩
      · rw [follow.eq_def] at hthere
        cases hthere
        exact .inl rfl
  · rw [follow_of_not_folder fun mode entries hnode => hfolder ⟨mode, entries, hnode⟩] at hthere
    cases hthere

/-- The folder is there and has the name, for a file or for a link that leads to one. -/
def HasFile (root : Node) (folder : Bytes) (name : FileName) : Prop :=
  ∃ (here : List FileName) (mode : Nat) (entries : Entries), reach root folder = .found here ∧
    nodeAt? root here = some (.folder mode entries) ∧ name.length ≤ maxNameLength ∧
      ((∃ data fileMode, entries.find? name = some (.file data fileMode)) ∨
        (∃ target, entries.find? name = some (.link target)) ∧
          isFile root (join folder name) = true)

/-- **There is a file at the path** just when the folder has it. -/
theorem isFile_join_iff (h : IsName name) (hfolder : folder ≠ []) :
    isFile root (join folder name) = true ↔ HasFile root folder name := by
  obtain ⟨left, -, hreach⟩ := reach_join h hfolder root
  constructor
  · intro hfile
    obtain ⟨there, data, fileMode, hthere, hnode⟩ := isFile_iff.1 hfile
    rw [hreach] at hthere
    cases hfound : reach root folder with
    | missing at_ rest =>
      rw [hfound] at hthere
      cases hthere
    | blocked e =>
      rw [hfound] at hthere
      cases hthere
    | found here =>
      rw [hfound] at hthere
      obtain ⟨mode, entries, hentries, hlength, hend⟩ := exists_folder_of_follow h hthere
      refine ⟨here, mode, entries, hfound, hentries, hlength, ?_⟩
      rcases hend with rfl | hlink
      · rw [nodeAt?_append_singleton hentries] at hnode
        exact .inl ⟨data, fileMode, hnode⟩
      · exact .inr ⟨hlink, hfile⟩
  · rintro ⟨here, mode, entries, hfound, hnode, hlength, ⟨data, fileMode, hfind⟩ | ⟨-, hfile⟩⟩
    · refine isFile_iff.2 ⟨here ++ [name], data, fileMode, ?_, ?_⟩
      · rw [hreach, hfound]
        dsimp only
        rw [follow_cons hnode, if_neg h.ne_above, if_neg (Nat.not_lt.2 hlength), hfind]
        dsimp only
        rw [follow.eq_def]
      · rw [nodeAt?_append_singleton hnode, hfind]
    · exact hfile

end

/-! ### Paths that go up again -/

theorem names_above : names (utf8 "s/a/..") = [utf8 "s", utf8 "a", utf8 ".."] := by decide

/-- A folder that is put at a path which goes up again is put where the path leads in the end.  The
    folders on the way are made before, and the last of them is in it then. -/
theorem place_put_above (mode : Nat) (es : Entries) (h : es.find? (utf8 "a") = none) :
    let top : Node := .folder mode []
    let path := utf8 "s/a/.."
    place top path = .missing ∧
      place (put mode top path (.folder mode es)) path =
        .present (.folder mode (es ++ [(utf8 "a", .folder mode [])])) := by
  intro top path
  have hne : path ≠ [] := by decide
  have hreach : reach top path = .missing [] [utf8 "s", utf8 "a", utf8 ".."] := by
    have htop : nodeAt? top [] = some (.folder mode []) := rfl
    rw [reach, if_neg hne, names_above, follow_cons htop]
    rfl
  have hput : put mode top path (.folder mode es) =
      .folder mode [(utf8 "s", .folder mode (es ++ [(utf8 "a", .folder mode [])]))] := by
    have hway : makeWay mode top [] [utf8 "s", utf8 "a", utf8 ".."] =
        (.folder mode [(utf8 "s", .folder mode [(utf8 "a", .folder mode [])])], [utf8 "s"]) := rfl
    have hmade : nodeAt? (.folder mode [(utf8 "s", .folder mode [(utf8 "a", .folder mode [])])])
        [utf8 "s"] = some (.folder mode [(utf8 "a", .folder mode [])]) := rfl
    have hfree : (Entries.find? es (utf8 "a")).isNone = true := by
      rw [h]
      rfl
    simp only [put, hreach, hway, hmade, overlay, List.filter_cons, hfree, List.filter_nil, if_true]
    rfl
  have hback : reach (put mode top path (.folder mode es)) path = .found [utf8 "s"] := by
    have hs : utf8 "s" ≠ utf8 ".." := by decide
    have hslen : ¬ maxNameLength < (utf8 "s").length := by decide
    have ha : utf8 "a" ≠ utf8 ".." := by decide
    have halen : ¬ maxNameLength < (utf8 "a").length := by decide
    have hfound : Entries.find? (es ++ [(utf8 "a", .folder mode [])]) (utf8 "a") =
        some (.folder mode []) := by
      rw [Entries.find?_append_of_none h]
      rfl
    rw [hput, reach, if_neg hne, names_above, follow_cons rfl]
    simp only [hs, hslen, if_false, Entries.find?, if_true]
    rw [List.nil_append, follow_cons rfl]
    simp only [ha, halen, if_false, hfound]
    have hinner : nodeAt?
        (.folder mode [(utf8 "s", .folder mode (es ++ [(utf8 "a", .folder mode [])]))])
        ([utf8 "s"] ++ [utf8 "a"]) = some (.folder mode []) := by
      simp only [nodeAt?, List.cons_append, List.nil_append, Entries.find?, if_true,
        Option.bind_some, hfound]
    rw [follow_cons hinner, if_pos rfl, follow.eq_def]
    rfl
  refine ⟨by rw [place, hreach], ?_⟩
  rw [place, hback, hput]
  rfl

end NetDelegate.FileSystem
