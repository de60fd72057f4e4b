/-
  NetDelegate/Proofs/Config/Prefix.lean
  =====================================
  **A key tells its prefix and its container.**  A prefix ends with a separator and an id has none,
  so the last separator of a key is where its prefix ends (`normalizeBasePath_append_inj`), and in
  the tree of a store no key lies below another (`not_isBelow_keyFor`).  A path that has a
  separator at its end is its own prefix (`normalizeBasePath_of_ends`); so two paths have one
  prefix only if they are the same but for that separator (`normalizeBasePath_inj`).
-/
import NetDelegate.Proofs.Store.Container

namespace NetDelegate.Config

variable {p q a b : String}

/-! ### Prefixes -/

theorem normalizeBasePath_of_ends (h : p.toList.getLast? = some keySeparator) :
    normalizeBasePath p = p := if_pos h

theorem normalizeBasePath_of_lacks (h : p.toList.getLast? ≠ some keySeparator) :
    normalizeBasePath p = p.push keySeparator := if_neg h

theorem normalizeBasePath_normalizeBasePath (p : String) :
    normalizeBasePath (normalizeBasePath p) = normalizeBasePath p :=
  normalizeBasePath_of_ends (getLast?_normalizeBasePath p)

/-- Two paths have one prefix if they are the same, or one of them is the prefix of the other. -/
theorem normalizeBasePath_inj :
    normalizeBasePath p = normalizeBasePath q ↔
      p = q ∨ p = normalizeBasePath q ∨ q = normalizeBasePath p := by
  constructor
  · intro h
    by_cases hp : p.toList.getLast? = some keySeparator
    · right
      left
      rw [← h, normalizeBasePath_of_ends hp]
    · by_cases hq : q.toList.getLast? = some keySeparator
      · right
        right
        rw [h, normalizeBasePath_of_ends hq]
      · left
        rw [normalizeBasePath_of_lacks hp, normalizeBasePath_of_lacks hq] at h
        exact (String.push_inj.1 h).1
  · rintro (rfl | rfl | rfl)
    · rfl
    · exact normalizeBasePath_normalizeBasePath q
    · exact (normalizeBasePath_normalizeBasePath p).symm

/-! ### Keys -/

/-- A key is cut into its prefix and its id in one way only. -/
theorem normalizeBasePath_append_inj (ha : '/' ∉ a.toList) (hb : '/' ∉ b.toList) :
    normalizeBasePath p ++ a = normalizeBasePath q ++ b ↔
      a = b ∧ normalizeBasePath p = normalizeBasePath q := by
  constructor
  · intro h
    obtain ⟨front, hfront⟩ := exists_normalizeBasePath_eq p
    obtain ⟨front', hfront'⟩ := exists_normalizeBasePath_eq q
    have htext := congrArg String.toList h
    simp only [String.toList_append, hfront, hfront', List.append_assoc,
      List.singleton_append] at htext
    obtain ⟨hsame, hid⟩ := append_mark_inj ha hb htext
    refine ⟨String.toList_inj.1 hid, String.toList_inj.1 ?_⟩
    rw [hfront, hfront', hsame]
  · rintro ⟨rfl, h⟩
    rw [h]

/-- In the tree of a store, which parts at separators, the key lies below the other. -/
def IsBelow (key other : String) : Prop := other.toList ++ [keySeparator] <+: key.toList

/-- A key has no separator behind its prefix, so it lies below no key with the same prefix. -/
theorem not_isBelow_keyFor (c : Config) (hb : '/' ∉ b.toList) :
    ¬IsBelow (c.keyFor b) (c.keyFor a) := by
  rintro ⟨rest, h⟩
  simp only [keyFor, String.toList_append, List.append_assoc, List.append_cancel_left_eq] at h
  apply hb
  rw [← h]
  exact List.mem_append_right _ List.mem_cons_self

/-- **Keys tell apart prefixes and containers.**  To make a prefix of a path twice is to make it
    once, and two paths have one prefix only if they are the same but for the separator at its end.
    Whatever the paths are, the keys of two ids are the same if and only if the ids are and the
    prefixes are; and whatever a configuration is, none of its keys lies below another. -/
theorem keys_tell_apart :
    (∀ p, normalizeBasePath (normalizeBasePath p) = normalizeBasePath p) ∧
    (∀ p q, normalizeBasePath p = normalizeBasePath q ↔
      p = q ∨ p = normalizeBasePath q ∨ q = normalizeBasePath p) ∧
    ∀ a b, ContainerId.check a = .ok () → ContainerId.check b = .ok () →
      (∀ p q, normalizeBasePath p ++ a = normalizeBasePath q ++ b ↔
        a = b ∧ normalizeBasePath p = normalizeBasePath q) ∧
      ∀ c : Config, ¬IsBelow (c.keyFor b) (c.keyFor a) := by
  refine ⟨normalizeBasePath_normalizeBasePath, fun p q => normalizeBasePath_inj, ?_⟩
  intro a b ha hb
  have hslash : '/' ∉ a.toList := ContainerId.slash_notMem (ContainerId.check_eq_ok_iff.1 ha)
  have hslash' : '/' ∉ b.toList := ContainerId.slash_notMem (ContainerId.check_eq_ok_iff.1 hb)
  constructor
  · intro p q
    exact normalizeBasePath_append_inj hslash hslash'
  · intro c
    exact not_isBelow_keyFor c hslash'

/-- A path with a separator at its end and without, a longer path that ends like an id, and an id
    that goes on behind another. -/
theorem keys_tell_apart_nested : ∃ config,
    load (fun _ => none) (Store.etcdText "cni") = .ok config ∧
    (config.keyFor "net").toList <+: (config.keyFor "net.1").toList ∧
    ¬IsBelow (config.keyFor "net.1") (config.keyFor "net") ∧
    normalizeBasePath "cni" ++ "net" = normalizeBasePath "cni/" ++ "net" ∧
    normalizeBasePath "cni" ++ "net" ≠ normalizeBasePath "cni/net" ++ "net" := by
  obtain ⟨config, hload, hfound⟩ : ∃ config,
      load (fun _ => none) (Store.etcdText "cni") = .ok config ∧
        (config.keyFor "net", config.keyFor "net.1") = ("cni/net", "cni/net.1") :=
    exists_load_of_map (by decide +kernel)
  simp only [Prod.mk.injEq] at hfound
  obtain ⟨-, hprefixes, hkeys⟩ := keys_tell_apart
  obtain ⟨hsame, -⟩ := hkeys "net" "net" (by decide) (by decide)
  obtain ⟨-, hbelow⟩ := hkeys "net" "net.1" (by decide) (by decide)
  refine ⟨config, hload, ?_, hbelow config, ?_, ?_⟩
  · rw [hfound.1, hfound.2]
    decide
  · exact (hsame "cni" "cni/").2 ⟨rfl, (hprefixes "cni" "cni/").2 (by decide)⟩
  · intro h
    exact absurd ((hprefixes "cni" "cni/net").1 ((hsame "cni" "cni/net").1 h).2) (by decide)

end NetDelegate.Config
