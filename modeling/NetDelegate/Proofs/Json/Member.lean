/-
  NetDelegate/Proofs/Json/Member.lean
  ===================================
  **The members of a text that is read.**  A text is read as a value just when it is written as an
  outline that can be read (`parse_eq_ok_iff`).  If a name comes up more than once, its last value
  counts (`get?_ofPairs_eq_some_iff`), so that a text has a member just when it is written as an
  object in which that is the last of the name (`member?_eq_some_iff`).
-/
import NetDelegate.Proofs.Json.Acceptance
import Mathlib.Data.List.Induction

namespace NetDelegate.Json

/-- **What is read:** the value of an outline that can be read, with blanks around it. -/
theorem parse_eq_ok_iff {text : Bytes} {j : Json} :
    parse text = .ok j ↔ ∃ (before : Blanks) (o : Outline .value) (after : Blanks),
      text = before.1 ++ (o.text ++ after.1) ∧ o.IsReadable ∧ o.value? = some j := by
  constructor
  · intro h
    obtain ⟨before, o, after, rfl⟩ := exists_outline_of_readAll
      (fun hread => ⟨maxDepth, goesAsFar_readValue maxDepth hread⟩) h
    have hreadable := (exists_parse_eq_ok_iff before o after).1 ⟨j, h⟩
    have hvalue := toOption_parse before o after
    rw [h, Outline.within?, if_pos hreadable.shallow] at hvalue
    exact ⟨before, o, after, rfl, hreadable, hvalue.symm⟩
  · rintro ⟨before, o, after, rfl, hreadable, hvalue⟩
    have hparse := toOption_parse before o after
    rw [Outline.within?, if_pos hreadable.shallow, hvalue] at hparse
    exact toOption_eq_some_iff.1 hparse

/-! ### Names that come up more than once -/

/-- The last of the pairs with this name has this value. -/
def IsLast (name : String) (v : Json) (pairs : List (String × Json)) : Prop :=
  ∃ before after, pairs = before ++ (name, v) :: after ∧ ∀ p ∈ after, p.1 ≠ name

theorem get?_setMember (members : Members) (name other : String) (v : Json) :
    Members.get? (setMember name v members) other =
      if name = other then some v else Members.get? members other := by
  induction members with
  | nil =>
    by_cases h : name = other
    · simp [setMember, Members.get?, h]
    · simp [setMember, Members.get?, h]
  | cons p members ih =>
    obtain ⟨first, there⟩ := p
    simp only [setMember]
    split
    · next heq =>
      subst heq
      by_cases h : first = other
      · simp [Members.get?, h]
      · simp [Members.get?, h]
    · next hne =>
      by_cases h : first = other
      · subst h
        simp [Members.get?, Ne.symm hne]
      · simpa [Members.get?, h] using ih

theorem get?_ofPairs (pairs : List (String × Json)) (name : String) :
    Members.get? (ofPairs pairs) name =
      (pairs.reverse.find? fun p => p.1 = name).map (·.2) := by
  -- from the last pair on, as each one is set over those before it
  induction pairs using List.reverseRecOn with
  | nil => rfl
  | append_singleton pairs p ih =>
    have hset : ofPairs (pairs ++ [p]) = setMember p.1 p.2 (ofPairs pairs) := List.foldl_append
    rw [hset, get?_setMember, ih, List.reverse_concat, List.find?_cons]
    by_cases h : p.1 = name
    · simp [h]
    · simp [h]

/-- **The last value of a name counts.** -/
theorem get?_ofPairs_eq_some_iff {pairs : List (String × Json)} {name : String} {v : Json} :
    Members.get? (ofPairs pairs) name = some v ↔ IsLast name v pairs := by
  rw [get?_ofPairs, Option.map_eq_some_iff]
  constructor
  · rintro ⟨⟨other, value⟩, hfind, rfl⟩
    obtain ⟨hname, later, earlier, hpairs, hlater⟩ := List.find?_eq_some_iff_append.1 hfind
    obtain rfl : other = name := by simpa using hname
    refine ⟨earlier.reverse, later.reverse, ?_, ?_⟩
    · rw [← List.reverse_reverse pairs, hpairs]
      simp
    · simpa using hlater
  · rintro ⟨before, after, rfl, hafter⟩
    have hfind : (before ++ (name, v) :: after).reverse.find? (fun p => p.1 = name) =
        some (name, v) := by
      refine List.find?_eq_some_iff_append.2 ⟨by simp, after.reverse, before.reverse, ?_, ?_⟩
      · simp
      · simpa using hafter
    exact ⟨(name, v), hfind, rfl⟩

/-! ### Members of a text -/

/-- The text is an object that can be read, in which the last member of this name has this
    value. -/
def HasMember (text : Bytes) (name : String) (v : Json) : Prop :=
  ∃ (before : Blanks) (members : Outline .members) (after : Blanks)
    (pairs : List (String × Json)),
    text = before.1 ++ ((Outline.object members).text ++ after.1) ∧
      (Outline.object members).IsReadable ∧ members.value? = some pairs ∧ IsLast name v pairs

/-- Only an object with members stands for a value with members. -/
theorem exists_of_value?_member? {o : Outline .value} {j v : Json} {name : String}
    (hvalue : o.value? = some j) (hmember : j.member? name = some v) :
    ∃ members pairs, o = .object members ∧ members.value? = some pairs ∧
      j = .object (ofPairs pairs) := by
  have hsort := Outline.sort_of_value? hvalue
  cases j with
  | object inside =>
    cases o with
    | object members =>
      obtain ⟨pairs, hpairs, hinside⟩ := Option.map_eq_some_iff.1 hvalue
      exact ⟨members, pairs, rfl, hpairs, hinside.symm⟩
    | emptyObject blanks =>
      cases hvalue
      cases hmember
    | _ => cases hsort
  | _ => cases hmember

/-- **The member of a text that is read** is the last one of its name. -/
theorem exists_parse_member?_iff {text : Bytes} {name : String} {v : Json} :
    (∃ j, parse text = .ok j ∧ j.member? name = some v) ↔ HasMember text name v := by
  constructor
  · rintro ⟨j, hparse, hmember⟩
    obtain ⟨before, o, after, htext, hreadable, hvalue⟩ := parse_eq_ok_iff.1 hparse
    obtain ⟨members, pairs, rfl, hpairs, rfl⟩ := exists_of_value?_member? hvalue hmember
    exact ⟨before, members, after, pairs, htext, hreadable, hpairs,
      get?_ofPairs_eq_some_iff.1 hmember⟩
  · rintro ⟨before, members, after, pairs, htext, hreadable, hpairs, hlast⟩
    refine ⟨.object (ofPairs pairs), ?_, get?_ofPairs_eq_some_iff.2 hlast⟩
    refine parse_eq_ok_iff.2 ⟨before, .object members, after, htext, hreadable, ?_⟩
    rw [Outline.value?, hpairs]
    rfl

end NetDelegate.Json
