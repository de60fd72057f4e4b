/-
  NetDelegate/Proofs/Url/Text.lean
  ================================
  **The written form of a path.**  Segments of an address have no slash (`isWritten_parse`), and
  putting parts to a path keeps it so (`isSlashFree_extend`).  So written paths can be read back:
  one goes on behind another exactly where the segments do (`adds_pathText_iff`), and what it adds
  spells what the added segments spell (`readAdded_pathText`).
-/
import NetDelegate.Proofs.Url.Path
import NetDelegate.Url.Parser

namespace NetDelegate

namespace Path

/-! ### Segments without slashes -/

/-- No segment has a slash. -/
def IsSlashFree (path : List String) : Prop := ∀ segment ∈ path, '/' ∉ segment.toList

/-- A path as addresses have it: with a segment, and no slash in any. -/
structure IsWritten (path : List String) : Prop where
  ne_nil : path ≠ []
  slashFree : IsSlashFree path

theorem isSlashFree_nil : IsSlashFree [] := fun _ h => absurd h List.not_mem_nil

theorem isSlashFree_append {path added : List String} :
    IsSlashFree (path ++ added) ↔ IsSlashFree path ∧ IsSlashFree added := List.forall_mem_append

theorem isSlashFree_cons {segment : String} {path : List String} :
    IsSlashFree (segment :: path) ↔ '/' ∉ segment.toList ∧ IsSlashFree path := List.forall_mem_cons

theorem isSlashFree_singleton {segment : String} (h : '/' ∉ segment.toList) :
    IsSlashFree [segment] := isSlashFree_cons.2 ⟨h, isSlashFree_nil⟩

theorem IsSlashFree.parent {path : List String} (h : IsSlashFree path) :
    IsSlashFree (parent path) := by
  unfold Path.parent
  split
  · exact isSlashFree_nil
  · split
    · exact h
    · exact fun segment hmem => h segment (List.dropLast_subset path hmem)

section
variable {keeps : Char → Bool} {path : List String} {segment : List Char}

theorem IsSlashFree.step (hpath : IsSlashFree path) (hsegment : keeps '/' = true → '/' ∉ segment)
    (isLast : Bool) : IsSlashFree (step keeps path segment isLast) := by
  have hending : IsSlashFree (if isLast then [""] else []) := by
    cases isLast with
    | false => exact isSlashFree_nil
    | true => exact isSlashFree_singleton List.not_mem_nil
  unfold Path.step
  simp only
  split
  · exact isSlashFree_append.2 ⟨hpath.parent, hending⟩
  · split
    · exact isSlashFree_append.2 ⟨hpath, hending⟩
    · refine isSlashFree_append.2 ⟨hpath, isSlashFree_singleton ?_⟩
      rw [String.toList_ofList]
      exact Percent.slash_notMem_encode hsegment

/-- The last of the segments that are followed leaves one at the end. -/
theorem step_last_ne_nil : step keeps path segment true ≠ [] := by
  unfold step
  simp only [if_true]
  split
  · exact List.append_ne_nil_of_right_ne_nil _ (List.cons_ne_nil _ _)
  · split
    · exact List.append_ne_nil_of_right_ne_nil _ (List.cons_ne_nil _ _)
    · exact List.append_ne_nil_of_right_ne_nil _ (List.cons_ne_nil _ _)

end

theorem isWritten_follow {path : List String} (hpath : IsSlashFree path)
    {segments : List (List Char)} (hne : segments ≠ [])
    (h : ∀ segment ∈ segments, '/' ∉ segment) : IsWritten (follow path segments) := by
  induction segments generalizing path with
  | nil => exact absurd rfl hne
  | cons segment segments ih =>
    have hsegment : '/' ∉ segment := h segment List.mem_cons_self
    cases segments with
    | nil => exact ⟨step_last_ne_nil, hpath.step (fun _ => hsegment) true⟩
    | cons next segments =>
      exact ih (hpath.step (fun _ => hsegment) false) (List.cons_ne_nil _ _)
        fun s hs => h s (List.mem_cons_of_mem segment hs)

theorem isSlashFree_push {path : List String} (hpath : IsSlashFree path) (part : List Char) :
    IsSlashFree (push path part) := by
  have hkeeps : Percent.segmentKeeps '/' ≠ true := by decide
  unfold push
  split
  · exact hpath
  · split
    · exact isSlashFree_nil.step (fun h => absurd h hkeeps) true
    · exact hpath.step (fun h => absurd h hkeeps) true

theorem isSlashFree_extend {path : List String} (hpath : IsSlashFree path)
    (parts : List (List Char)) : IsSlashFree (extend path parts) := by
  unfold extend
  induction parts generalizing path with
  | nil => exact hpath
  | cons part parts ih => exact ih (isSlashFree_push hpath part)

end Path

namespace Url

/-! ### Addresses that were read -/

theorem isWritten_readService {scheme : Scheme} {cs : List Char} {u : Url}
    (h : readService scheme cs = .ok u) : Path.IsWritten u.path := by
  unfold readService at h
  simp only [bind, Except.bind] at h
  split at h
  · cases h
  · split at h
    · cases h
    · split at h
      · cases h
      · cases h
        refine Path.isWritten_follow Path.isSlashFree_nil ?_ ?_
        · split
          · exact List.cons_ne_nil [] []
          · exact splitWhere_ne_nil isSlash _
        · intro segment hsegment
          split at hsegment
          · rw [List.mem_singleton.1 hsegment]
            exact List.not_mem_nil
          · exact notMem_of_mem_splitWhere hsegment rfl

theorem refuse_ne_ok {scheme : String} {check : Except Issue Unit} {u : Url} :
    refuse scheme check ≠ .ok u := by
  intro h
  cases check with
  | error issue => cases h
  | ok _ => cases h

theorem exists_readService_of_parse {s : String} {u : Url} (h : parse s = .ok u) :
    ∃ scheme cs, readService scheme cs = .ok u := by
  unfold parse at h
  split at h
  · cases h
  · split at h
    · exact ⟨_, _, h⟩
    · split at h
      · exact ⟨_, _, h⟩
      · -- every other scheme is refused
        split at h
        · exact absurd h refuse_ne_ok
        · split at h
          · exact absurd h refuse_ne_ok
          · split at h
            · exact absurd h refuse_ne_ok
            · exact absurd h refuse_ne_ok

/-- The path of an address that was read is a written one. -/
theorem isWritten_parse {s : String} {u : Url} (h : parse s = .ok u) : Path.IsWritten u.path := by
  obtain ⟨scheme, cs, hread⟩ := exists_readService_of_parse h
  exact isWritten_readService hread

theorem exists_readHost_of_readService {scheme : Scheme} {cs : List Char} {u : Url}
    (h : readService scheme cs = .ok u) : ∃ name, readHost name = .ok u.host := by
  unfold readService at h
  simp only [bind, Except.bind] at h
  split at h
  · cases h
  · split at h
    · cases h
    · next host hhost =>
      split at h
      · cases h
      · cases h
        exact ⟨_, hhost⟩

theorem text_ne_nil_of_readHost {name : List Char} {host : Host} (h : readHost name = .ok host) :
    host.text ≠ [] := by
  unfold readHost at h
  split at h
  · unfold readBracketed at h
    split at h
    · split at h
      · cases h
        exact List.cons_ne_nil _ _
      · cases h
    · cases h
  · split at h
    · cases h
    · cases h
    · next name hne _ =>
      split at h
      · split at h
        · cases h
          simp [Host.text, Host.ipv4Text]
        · cases h
      · cases h
        rw [Host.text, String.toList_ofList]
        exact hne

/-- An address that was read has a host. -/
theorem host_ne_nil_of_parse {s : String} {u : Url} (h : parse s = .ok u) : u.host.text ≠ [] := by
  obtain ⟨scheme, cs, hread⟩ := exists_readService_of_parse h
  obtain ⟨name, hname⟩ := exists_readHost_of_readService hread
  exact text_ne_nil_of_readHost hname

/-! ### Reading a written path back -/

/-- `cs` goes on behind `top` with `added`: with nothing, or with a slash and more. -/
def Adds (top added cs : List Char) : Prop :=
  cs = top ++ added ∧ (added = [] ∨ ∃ more, added = '/' :: more)

/-- `cs` is `top`, or goes on behind it with a slash. -/
def IsWithin (top cs : List Char) : Prop := ∃ added, Adds top added cs

/-- What an added part of a path spells: cut at its slashes, each piece decoded, and the pieces
    joined by slashes again. -/
def readAdded (added : List Char) : Bytes :=
  Path.joined (((added.drop 1).splitOn '/').map fun piece => Percent.decode (Utf8.encode piece))

theorem pathText_append (path added : List String) :
    pathText (path ++ added) = pathText path ++ pathText added := List.flatMap_append

theorem pathText_opens (path : List String) :
    pathText path = [] ∨ ∃ more, pathText path = '/' :: more := by
  cases path with
  | nil => exact .inl rfl
  | cons segment path => exact .inr ⟨_, rfl⟩

theorem takeWhile_append_of_opens {cs added : List Char} (hcs : '/' ∉ cs)
    (hadded : added = [] ∨ ∃ more, added = '/' :: more) :
    (cs ++ added).takeWhile (· ≠ '/') = cs := by
  rw [List.takeWhile_append_of_pos]
  · rcases hadded with rfl | ⟨more, rfl⟩
    · exact List.append_nil cs
    · exact List.append_nil cs
  · intro c hc
    exact decide_eq_true fun heq => hcs (heq ▸ hc)

/-- Two texts are cut alike at the first slash. -/
theorem append_inj_of_opens {cs ds added added' : List Char} (hcs : '/' ∉ cs) (hds : '/' ∉ ds)
    (hadded : added = [] ∨ ∃ more, added = '/' :: more)
    (hadded' : added' = [] ∨ ∃ more, added' = '/' :: more) (h : cs ++ added = ds ++ added') :
    cs = ds ∧ added = added' := by
  have hfirst := congrArg (List.takeWhile (· ≠ '/')) h
  rw [takeWhile_append_of_opens hcs hadded, takeWhile_append_of_opens hds hadded'] at hfirst
  subst hfirst
  exact ⟨rfl, List.append_cancel_left h⟩

/-- Written paths go on behind each other as their segments do. -/
theorem adds_pathText_iff {path path' : List String} (hpath : Path.IsSlashFree path)
    (hpath' : Path.IsSlashFree path') (added : List Char) :
    Adds (pathText path) added (pathText path') ↔
      ∃ rest, path' = path ++ rest ∧ added = pathText rest := by
  constructor
  · rintro ⟨htext, hadded⟩
    induction path generalizing path' with
    | nil => exact ⟨path', rfl, htext.symm⟩
    | cons segment path ih =>
      cases path' with
      | nil => cases htext
      | cons segment' path' =>
        obtain ⟨hsegment, hpath⟩ := Path.isSlashFree_cons.1 hpath
        obtain ⟨hsegment', hpath'⟩ := Path.isSlashFree_cons.1 hpath'
        have hbehind : pathText path ++ added = [] ∨ ∃ more, pathText path ++ added = '/' :: more := by
          rcases pathText_opens path with hnil | ⟨more, hmore⟩
          · rw [hnil]
            exact hadded
          · exact .inr ⟨more ++ added, by rw [hmore]; rfl⟩
        have htail : segment'.toList ++ pathText path' =
            segment.toList ++ (pathText path ++ added) := by
          rw [← List.append_assoc]
          exact List.tail_eq_of_cons_eq htext
        obtain ⟨hhead, hrest⟩ :=
          append_inj_of_opens hsegment' hsegment (pathText_opens path') hbehind htail
        obtain ⟨rest, rfl, hadded⟩ := ih hpath hpath' hrest
        exact ⟨rest, by rw [String.toList_inj.1 hhead]; rfl, hadded⟩
  · rintro ⟨rest, rfl, rfl⟩
    exact ⟨pathText_append path rest, pathText_opens rest⟩

theorem isWithin_pathText_iff {path path' : List String} (hpath : Path.IsSlashFree path)
    (hpath' : Path.IsSlashFree path') :
    IsWithin (pathText path) (pathText path') ↔ path <+: path' := by
  constructor
  · rintro ⟨added, hadds⟩
    obtain ⟨rest, hrest, -⟩ := (adds_pathText_iff hpath hpath' _).1 hadds
    exact ⟨rest, hrest.symm⟩
  · rintro ⟨rest, hrest⟩
    exact ⟨pathText rest, (adds_pathText_iff hpath hpath' _).2 ⟨rest, hrest.symm, rfl⟩⟩

theorem pathText_inj {path path' : List String} (hpath : Path.IsSlashFree path)
    (hpath' : Path.IsSlashFree path') : pathText path = pathText path' ↔ path = path' := by
  constructor
  · intro h
    have hadds : Adds (pathText path) [] (pathText path') := ⟨by rw [h, List.append_nil], .inl rfl⟩
    obtain ⟨rest, hrest, hnil⟩ := (adds_pathText_iff hpath hpath' _).1 hadds
    cases rest with
    | nil => rw [hrest, List.append_nil]
    | cons segment rest => cases hnil
  · rintro rfl
    rfl

/-- Addresses that have all but the path in common are told by the path. -/
theorem path_eq_of_text_eq {u : Url} {path path' : List String} (hpath : Path.IsSlashFree path)
    (hpath' : Path.IsSlashFree path')
    (h : ({ u with path := path } : Url).text = ({ u with path := path' } : Url).text) :
    path = path' := by
  have htext := String.ofList_inj.1 h
  have hquery := List.append_cancel_right (List.append_cancel_right htext)
  exact (pathText_inj hpath hpath').1 (List.append_cancel_left hquery)

theorem pathText_cons (segment : String) (path : List String) :
    pathText (segment :: path) = '/' :: ['/'].intercalate ((segment :: path).map String.toList) := by
  induction path generalizing segment with
  | nil => simp [pathText]
  | cons next path ih =>
    have htext : pathText (segment :: next :: path) =
        '/' :: (segment.toList ++ pathText (next :: path)) := rfl
    rw [htext, ih, List.map_cons, List.map_cons, List.map_cons, List.intercalate_cons_cons,
      List.append_assoc]
    rfl

/-- What written segments add spells what the segments spell. -/
theorem readAdded_pathText {path : List String} (hpath : Path.IsSlashFree path) :
    readAdded (pathText path) = Path.joined (path.map Path.spelled) := by
  cases path with
  | nil => rfl
  | cons segment path =>
    have hpieces : ∀ piece ∈ (segment :: path).map String.toList, '/' ∉ piece := by
      intro piece hpiece
      obtain ⟨s, hs, rfl⟩ := List.mem_map.1 hpiece
      exact hpath s hs
    rw [readAdded, pathText_cons, List.drop_one, List.tail_cons,
      List.splitOn_intercalate '/' hpieces (List.cons_ne_nil _ _), List.map_map]
    rfl

end Url

end NetDelegate
