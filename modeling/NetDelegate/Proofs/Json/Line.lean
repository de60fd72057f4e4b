/-
  NetDelegate/Proofs/Json/Line.lean
  =================================
  **A printed value is one line.**  In strings control characters are escaped, and nothing else
  that is printed has any (`IsExact.isPlain_print`); so the bytes of a value have no line feed
  (`IsExact.lineFeed_notMem`).
-/
import NetDelegate.Proofs.Json.Compact
import NetDelegate.Proofs.Scratch.Name

namespace NetDelegate.Json

/-! ### Characters -/

/-- No character is a control character. -/
def IsPlain (cs : List Char) : Prop := ∀ c ∈ cs, 0x20 ≤ c.toNat

theorem isPlain_of_all {cs : List Char} (h : (cs.all fun c => 0x20 ≤ c.toNat) = true) :
    IsPlain cs := by
  intro c hc
  exact of_decide_eq_true (List.all_eq_true.1 h c hc)

theorem IsPlain.append {cs ds : List Char} (hcs : IsPlain cs) (hds : IsPlain ds) :
    IsPlain (cs ++ ds) := List.forall_mem_append.2 ⟨hcs, hds⟩

theorem IsPlain.cons {c : Char} {cs : List Char} (hc : 0x20 ≤ c.toNat) (hcs : IsPlain cs) :
    IsPlain (c :: cs) := List.forall_mem_cons.2 ⟨hc, hcs⟩

theorem isPlain_singleton {c : Char} (hc : 0x20 ≤ c.toNat) : IsPlain [c] :=
  List.forall_mem_singleton.2 hc

theorem toNat_hexDigit : ∀ n < 16, 0x20 ≤ (hexDigit n).toNat := by decide

theorem isPlain_escape (c : Char) : IsPlain (escape c) := by
  have hshort : ∀ d : Char, 0x20 ≤ d.toNat → IsPlain ['\\', d] := by
    intro d hd
    exact .cons (by decide) (isPlain_singleton hd)
  unfold escape
  split
  · exact hshort '"' (by decide)
  split
  · exact hshort '\\' (by decide)
  split
  · exact hshort 'b' (by decide)
  split
  · exact hshort 't' (by decide)
  split
  · exact hshort 'n' (by decide)
  split
  · exact hshort 'f' (by decide)
  split
  · exact hshort 'r' (by decide)
  split
  · next hcontrol =>
    have hfirst := toNat_hexDigit (c.toNat / 16) (by omega)
    have hsecond := toNat_hexDigit (c.toNat % 16) (by omega)
    have hlead : IsPlain ['\\', 'u', '0', '0'] := isPlain_of_all (by decide)
    exact hlead.append (.cons hfirst (isPlain_singleton hsecond))
  · next hprintable => exact isPlain_singleton (Nat.not_lt.1 hprintable)

theorem isPlain_quoted (s : String) : IsPlain (quoted s) := by
  have hinside : IsPlain (s.toList.flatMap escape) := by
    intro c hc
    obtain ⟨d, -, hd⟩ := List.mem_flatMap.1 hc
    exact isPlain_escape d c hd
  exact .cons (by decide) (hinside.append (isPlain_singleton (by decide)))

theorem isPlain_decimalDigits (n : Nat) : IsPlain (Number.decimalDigits n) := by
  intro c hc
  have hdigit := Scratch.isDigit_of_mem_decimalDigits hc
  simp only [Char.isDigit, Bool.and_eq_true, decide_eq_true_eq] at hdigit
  exact Nat.le_trans (by decide) hdigit.1

theorem isPlain_commaSeparated {ts : List (List Char)} (h : ∀ t ∈ ts, IsPlain t) :
    IsPlain (commaSeparated ts) := by
  induction ts with
  | nil => exact List.forall_mem_nil _
  | cons t ts ih =>
    obtain ⟨ht, hts⟩ := List.forall_mem_cons.1 h
    cases ts with
    | nil => exact ht
    | cons u us => exact ht.append (.cons (by decide) (ih hts))

theorem printMembers_eq_map (members : List (String × Json)) :
    printMembers members = members.map fun p => quoted p.1 ++ ':' :: p.2.print := by
  induction members with
  | nil => rfl
  | cons p members ih => rw [printMembers, ih, List.map_cons]

/-- **No control character is printed.** -/
theorem IsExact.isPlain_print {v : Json} (h : v.IsExact) : IsPlain v.print := by
  induction h with
  | null => exact isPlain_of_all (by decide)
  | bool b =>
    cases b with
    | true => exact isPlain_of_all (by decide)
    | false => exact isPlain_of_all (by decide)
  | @number n hn =>
    cases n with
    | natural n => exact isPlain_decimalDigits n
    | negative n => exact .cons (by decide) (isPlain_decimalDigits n)
    | real x => cases hn
  | string s => exact isPlain_quoted s
  | array hitems ih =>
    rw [print, printItems_eq_map]
    refine .cons (by decide) (.append (isPlain_commaSeparated ?_) (isPlain_singleton (by decide)))
    exact List.forall_mem_map.2 ih
  | object hnames hmembers ih =>
    rw [print, printMembers_eq_map]
    refine .cons (by decide) (.append (isPlain_commaSeparated ?_) (isPlain_singleton (by decide)))
    refine List.forall_mem_map.2 fun p hp => ?_
    exact (isPlain_quoted p.1).append (.cons (by decide) (ih p hp))

/-! ### Bytes -/

theorem le_of_mem_encodeChar {c : Char} (hc : 0x20 ≤ c.toNat) {b : UInt8}
    (hb : b ∈ Utf8.encodeChar c) : 0x20 ≤ b := by
  by_cases hquote : c = '"'
  · subst hquote
    obtain rfl : b = ascii '"' := List.mem_singleton.1 hb
    decide
  by_cases hbackslash : c = '\\'
  · subst hbackslash
    obtain rfl : b = ascii '\\' := List.mem_singleton.1 hb
    decide
  have hunescaped := isUnescaped_of_mem_encodeChar hquote hbackslash hc hb
  simp only [isUnescaped, Bool.and_eq_true, decide_eq_true_eq] at hunescaped
  exact hunescaped.2

/-- **A value is printed without line feeds.** -/
theorem IsExact.lineFeed_notMem {v : Json} (h : v.IsExact) : (10 : UInt8) ∉ v.bytes := by
  intro hmem
  obtain ⟨c, hc, hb⟩ := List.mem_flatMap.1 hmem
  exact absurd (le_of_mem_encodeChar (h.isPlain_print c hc) hb) (by decide)

end NetDelegate.Json
