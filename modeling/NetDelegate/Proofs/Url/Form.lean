/-
  NetDelegate/Proofs/Url/Form.lean
  ================================
  **What is added to a query is read back from it.**  A name or a value is written without the
  marks that separate pairs, and decoding undoes the encoding (`Form.decode_encode`).  So a pair
  that is added comes behind the pairs that the query has already, whatever these are
  (`Form.pairs_addPair`).
-/
import Mathlib.Data.List.TakeWhile
import NetDelegate.Proofs.Text.Percent
import NetDelegate.Url.Form

namespace NetDelegate.Form

/-! ### Names and values -/

/-- Written characters with spaces for plus signs. -/
def unplus (cs : List Char) : List Char := cs.map fun c => if c = '+' then ' ' else c

/-- Kept where a space may stand for itself. -/
def keepsSpaced (c : Char) : Bool := keeps c || c = ' '

theorem toNat_lt_of_keeps {c : Char} (h : keeps c = true) : c.toNat < 0x80 := by
  have hbound : ∀ d : Char, d.toNat < 0x80 → c.val ≤ d.val → c.toNat < 0x80 :=
    fun d hd hle => Nat.lt_of_le_of_lt (UInt32.le_iff_toNat_le.1 hle) hd
  rcases Bool.or_eq_true_iff.1 h with halnum | hmark
  · rcases Bool.or_eq_true_iff.1 halnum with halpha | hdigit
    · rcases Bool.or_eq_true_iff.1 halpha with hupper | hlower
      · exact hbound 'Z' (by decide) (of_decide_eq_true hupper).2
      · exact hbound 'z' (by decide) (of_decide_eq_true (Bool.and_eq_true_iff.1 hlower).2)
    · exact hbound '9' (by decide) (of_decide_eq_true (Bool.and_eq_true_iff.1 hdigit).2)
  · have hmarks : "*-._".toList.all fun d => d.toNat < 0x80 := by decide
    exact of_decide_eq_true (List.all_eq_true.1 hmarks c (List.contains_iff_mem.1 hmark))

theorem isClass_keepsSpaced : Percent.IsClass keepsSpaced := by
  intro c hc
  rcases Bool.or_eq_true_iff.1 hc with hkeeps | hspace
  · refine ⟨toNat_lt_of_keeps hkeeps, ?_⟩
    rintro rfl
    exact absurd hkeeps (by decide)
  · obtain rfl : c = ' ' := of_decide_eq_true hspace
    exact ⟨by decide, by decide⟩

theorem mem_encodeChar {c d : Char} (h : d ∈ encodeChar c) :
    (keeps d = true ∧ d = c) ∨ (d = '+' ∧ c = ' ') ∨ d = '%' ∨ (hexValue? d).isSome := by
  unfold encodeChar at h
  split at h
  · next hspace => exact .inr (.inl ⟨List.mem_singleton.1 h, hspace⟩)
  · have hmem : d ∈ Percent.encode keeps [c] := by
      rw [Percent.encode, List.flatMap_singleton]
      exact h
    rcases Percent.mem_encode hmem with ⟨hkeeps, hc⟩ | hescape
    · exact .inl ⟨hkeeps, List.mem_singleton.1 hc⟩
    · exact .inr (.inr hescape)

-- The plus sign is not kept either, but it is written for a space.
theorem notMem_encodeChar {d c : Char} (hkeeps : keeps d = false) (hpercent : d ≠ '%')
    (hdigit : (hexValue? d).isSome = false) (hplus : d ≠ '+' ∨ c ≠ ' ') : d ∉ encodeChar c := by
  intro hmem
  rcases mem_encodeChar hmem with ⟨hkept, -⟩ | ⟨rfl, rfl⟩ | rfl | hhex
  · rw [hkeeps] at hkept
    cases hkept
  · exact hplus.elim (absurd rfl) (absurd rfl)
  · exact hpercent rfl
  · rw [hdigit] at hhex
    cases hhex

theorem ampersand_notMem_encode (s : String) : '&' ∉ encode s := by
  intro hmem
  obtain ⟨c, -, hc⟩ := List.mem_flatMap.1 hmem
  exact notMem_encodeChar (by decide) (by decide) (by decide) (.inl (by decide)) hc

theorem ne_equals_of_mem_encode {s : String} : ∀ c ∈ encode s, decide (c ≠ '=') = true := by
  intro c hmem
  obtain ⟨d, -, hd⟩ := List.mem_flatMap.1 hmem
  refine decide_eq_true ?_
  rintro rfl
  exact notMem_encodeChar (by decide) (by decide) (by decide) (.inl (by decide)) hd

theorem unplus_encodeChar (c : Char) :
    unplus (encodeChar c) = Percent.encodeChar keepsSpaced c := by
  by_cases hspace : c = ' '
  · subst hspace
    decide
  -- a plus sign of the text is escaped, so that none is taken for a space
  · have hsame : unplus (encodeChar c) = encodeChar c := by
      apply (List.map_congr_left fun d hd => if_neg ?_).trans (List.map_id _)
      rintro rfl
      exact notMem_encodeChar (by decide) (by decide) (by decide) (.inr hspace) hd
    have hkeeps : keepsSpaced c = keeps c := by
      rw [keepsSpaced, decide_eq_false hspace, Bool.or_false]
    rw [hsame, encodeChar, if_neg hspace, Percent.encodeChar, Percent.encodeChar, hkeeps]

theorem unplus_encode (s : String) : unplus (encode s) = Percent.encode keepsSpaced s.toList := by
  unfold encode Percent.encode unplus
  rw [List.map_flatMap, List.flatMap_def, List.flatMap_def]
  congr 1
  exact List.map_congr_left fun c _ => unplus_encodeChar c

/-- **Decoding undoes encoding.** -/
theorem decode_encode (s : String) : decode (encode s) = s := by
  change Bytes.textLossy (Percent.decode (Utf8.encode (unplus (encode s)))) = s
  rw [unplus_encode, Percent.decode_encode isClass_keepsSpaced, Bytes.textLossy,
    Utf8.decodeLossy_encode, String.ofList_toList]

/-! ### Pairs -/

/-- The pair that is written as a piece of a query. -/
def readPiece (piece : List Char) : String × String :=
  (decode (piece.takeWhile (· ≠ '=')), decode ((piece.dropWhile (· ≠ '=')).drop 1))

/-- The pairs of a query, if there is one. -/
def pairs? (query : Option String) : List (String × String) := (query.map pairs).getD []

/-- What is put at the end of a query comes behind its pairs. -/
theorem pairs_append (query : Option String) {piece : List Char} (hne : piece ≠ [])
    (hmark : '&' ∉ piece) : pairs (append query piece) = pairs? query ++ [readPiece piece] := by
  have hcut : splitWhere (· = '&') piece = [piece] := by
    refine splitWhere_of_notMem fun c hc => decide_eq_false ?_
    rintro rfl
    exact hmark hc
  have hone : [piece].filter (· ≠ []) = [piece] := by simp [hne]
  have halone : pairs (String.ofList piece) = [readPiece piece] := by
    rw [pairs, String.toList_ofList, hcut, hone]
    rfl
  cases query with
  | none => exact halone
  | some q =>
    by_cases hempty : q = ""
    · subst hempty
      exact halone
    · have happend : append (some q) piece = String.ofList (q.toList ++ '&' :: piece) := by
        unfold append
        split
        · cases ‹_›
        · next h => exact absurd (Option.some.inj h) hempty
        · next h => rw [Option.some.inj h]
      have hsplit : splitWhere (· = '&') (q.toList ++ '&' :: piece) =
          splitWhere (· = '&') q.toList ++ [piece] := by
        rw [splitWhere_append_cons (by decide), hcut]
      rw [happend, pairs, String.toList_ofList, hsplit, List.filter_append, List.map_append, hone]
      rfl

theorem pairs_addName (query : Option String) {name : String} (hname : encode name ≠ []) :
    pairs (addName query name) = pairs? query ++ [(name, "")] := by
  have hread : readPiece (encode name) = (name, "") := by
    rw [readPiece, List.takeWhile_eq_self_iff.2 ne_equals_of_mem_encode,
      List.dropWhile_eq_nil_iff.2 ne_equals_of_mem_encode, decode_encode]
    rfl
  rw [addName, pairs_append query hname (ampersand_notMem_encode name), hread]

/-- **A pair that is added comes behind the pairs of the query,** and is read as it was given. -/
theorem pairs_addPair (query : Option String) (name value : String) :
    pairs (addPair query name value) = pairs? query ++ [(name, value)] := by
  have hread : readPiece (encode name ++ '=' :: encode value) = (name, value) := by
    rw [readPiece, List.takeWhile_append_of_pos ne_equals_of_mem_encode,
      List.dropWhile_append_of_pos ne_equals_of_mem_encode]
    simp [decode_encode]
  have hmark : '&' ∉ encode name ++ '=' :: encode value := by
    simp [ampersand_notMem_encode]
  rw [addPair, pairs_append query (List.append_ne_nil_of_right_ne_nil _ (List.cons_ne_nil _ _)) hmark,
    hread]

end NetDelegate.Form
