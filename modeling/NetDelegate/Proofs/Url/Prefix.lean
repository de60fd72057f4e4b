/-
  NetDelegate/Proofs/Url/Prefix.lean
  ==================================
  **A fixed prefix behind the path of an endpoint.**  Plain segments are put to a path as they are
  (`extend_of_isPlain`), behind the path less an empty segment at its end.  In the written form
  that is the path less one slash at its end (`apiPath_eq`), but for the path of two slashes
  (`stem_eq_root`).
-/
import NetDelegate.Proofs.Url.Text

namespace NetDelegate

namespace Path

/-! ### The prefix of a service -/

/-- A segment that is written as it is, and that going up removes. -/
structure IsPlain (segment : String) : Prop where
  literal : IsLiteral segment.toList
  written : written segment.toList = segment
  ne_empty : segment ≠ ""
  not_drive : isDrive segment = false

/-- The path behind which segments are put: without an empty one at its end, and without one if
    that leaves the empty path. -/
def root (path : List String) : List String :=
  if withoutTrailing path = [""] then [] else withoutTrailing path

/-- A path without an empty segment at its end. -/
def stem (path : List String) : List String :=
  if path.getLast? = some "" then path.dropLast else path

theorem IsPlain.slash_notMem {segment : String} (h : IsPlain segment) : '/' ∉ segment.toList := by
  have hkeeps : Percent.segmentKeeps '/' ≠ true := by decide
  rw [← h.written, Path.written, String.toList_ofList]
  exact Percent.slash_notMem_encode fun hslash => absurd hslash hkeeps

theorem push_of_isPlain (path : List String) {segment : String} (h : IsPlain segment) :
    push path segment.toList = (if path = [""] then [] else path) ++ [segment] := by
  rw [push_eq, if_neg h.literal.1, advance, if_neg (not_leadsUp_of_isLiteral h.literal),
    addition_of_isLiteral h.literal, h.written]

/-- What the prefix of a service comes to. -/
theorem extend_of_isPlain (path : List String) {a b : String} (ha : IsPlain a) (hb : IsPlain b) :
    extend (withoutTrailing path) [a.toList, b.toList] = root path ++ [a, b] := by
  have hne : root path ++ [a] ≠ [""] :=
    ne_root ⟨a, List.mem_append_right (root path) List.mem_cons_self, ha.ne_empty⟩
  have hextend : extend (withoutTrailing path) [a.toList, b.toList] =
      push (push (withoutTrailing path) a.toList) b.toList := rfl
  rw [hextend, push_of_isPlain _ ha]
  change push (root path ++ [a]) b.toList = _
  rw [push_of_isPlain _ hb, if_neg hne, List.append_assoc]
  rfl

theorem withoutTrailing_append_empty {front : List String} (h : front ≠ []) :
    withoutTrailing (front ++ [""]) = front := by
  have hlength : ¬(front ++ [""]).length ≤ 1 := by
    have := List.length_pos_iff.2 h
    rw [List.length_append, List.length_singleton]
    omega
  rw [withoutTrailing, if_neg hlength, if_pos List.getLast?_concat, List.dropLast_concat]

theorem getLast?_append_ne (front : List String) {last : String} (h : last ≠ "") :
    (front ++ [last]).getLast? ≠ some "" := by
  rw [List.getLast?_concat]
  exact fun heq => h (Option.some.inj heq)

theorem withoutTrailing_append_of_ne (front : List String) {last : String} (h : last ≠ "") :
    withoutTrailing (front ++ [last]) = front ++ [last] := by
  rw [withoutTrailing, if_neg (getLast?_append_ne front h)]
  split
  · rfl
  · rfl

theorem stem_append_empty (front : List String) : stem (front ++ [""]) = front := by
  rw [stem, if_pos List.getLast?_concat, List.dropLast_concat]

theorem stem_append_of_ne (front : List String) {last : String} (h : last ≠ "") :
    stem (front ++ [last]) = front ++ [last] := by
  rw [stem, if_neg (getLast?_append_ne front h)]

theorem IsSlashFree.withoutTrailing {path : List String} (h : IsSlashFree path) :
    IsSlashFree (withoutTrailing path) := by
  unfold Path.withoutTrailing
  split
  · exact h
  · split
    · exact fun segment hmem => h segment (List.dropLast_subset path hmem)
    · exact h

theorem IsSlashFree.stem {path : List String} (h : IsSlashFree path) : IsSlashFree (stem path) := by
  unfold Path.stem
  split
  · exact fun segment hmem => h segment (List.dropLast_subset path hmem)
  · exact h

/-- Only behind the path of two slashes the prefix is put elsewhere. -/
theorem stem_eq_root {path : List String} (hne : path ≠ []) (hslashes : path ≠ ["", ""]) :
    stem path = root path := by
  obtain ⟨front, last, rfl⟩ := (List.eq_nil_or_concat path).resolve_left hne
  rw [List.concat_eq_append] at hslashes ⊢
  by_cases hlast : last = ""
  · subst hlast
    by_cases hfront : front = []
    · subst hfront
      rfl
    · have hnot : front ≠ [""] := fun h => hslashes (by rw [h]; rfl)
      rw [stem_append_empty, root, withoutTrailing_append_empty hfront, if_neg hnot]
  · have hnot : front ++ [last] ≠ [""] :=
      ne_root ⟨last, List.mem_append_right front List.mem_cons_self, hlast⟩
    rw [stem_append_of_ne front hlast, root, withoutTrailing_append_of_ne front hlast, if_neg hnot]

end Path

namespace Url

/-! ### The part of a service that keys belong to -/

/-- A written path without one slash at its end. -/
def withoutSlash (cs : List Char) : List Char :=
  if cs.getLast? = some '/' then cs.dropLast else cs

/-- The written path under which the keys of an endpoint belong. -/
def apiPath (endpoint : Url) (top : List String) : List Char :=
  withoutSlash (pathText endpoint.path) ++ pathText top

theorem withoutSlash_pathText {path : List String} (h : Path.IsWritten path) :
    withoutSlash (pathText path) = pathText (Path.stem path) := by
  obtain ⟨front, last, rfl⟩ := (List.eq_nil_or_concat path).resolve_left h.ne_nil
  rw [List.concat_eq_append] at h ⊢
  have htext : pathText (front ++ [last]) = pathText front ++ '/' :: last.toList := by
    rw [pathText_append]
    exact congrArg (pathText front ++ ·) (List.append_nil ('/' :: last.toList))
  by_cases hlast : last = ""
  · subst hlast
    rw [Path.stem_append_empty, htext, withoutSlash]
    have hslash : (pathText front ++ '/' :: "".toList).getLast? = some '/' := List.getLast?_concat
    rw [if_pos hslash]
    exact List.dropLast_concat
  · have hchars : last.toList ≠ [] := fun hnil => hlast (String.toList_eq_nil_iff.1 hnil)
    have hslash : (pathText front ++ '/' :: last.toList).getLast? ≠ some '/' := by
      rw [List.getLast?_append, List.getLast?_cons, List.getLast?_eq_some_getLast hchars]
      intro heq
      have hfree : '/' ∉ last.toList :=
        (Path.isSlashFree_append.1 h.slashFree).2 last List.mem_cons_self
      apply hfree
      have hget : last.toList.getLast hchars = '/' := by simpa using heq
      rw [← hget]
      exact List.getLast_mem hchars
    rw [Path.stem_append_of_ne front hlast, htext, withoutSlash, if_neg hslash]

theorem apiPath_eq {endpoint : Url} (h : Path.IsWritten endpoint.path) (top : List String) :
    apiPath endpoint top = pathText (Path.stem endpoint.path ++ top) := by
  rw [apiPath, withoutSlash_pathText h, pathText_append]

/-- The same service, asked with the same credentials. -/
structure SamePlace (u v : Url) : Prop where
  scheme : u.scheme = v.scheme
  username : u.username = v.username
  password : u.password = v.password
  host : u.host = v.host
  port : u.port = v.port

end Url

end NetDelegate
