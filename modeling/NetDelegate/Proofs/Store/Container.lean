/-
  NetDelegate/Proofs/Store/Container.lean
  =======================================
  **Where the list of a container is asked for.**  The key prefix of a configuration ends with a
  separator and an id has none, so the id is the last part of its key and the parts before it are
  those of the prefix (`Store.exists_keyParts_eq`), whatever the prefix is.  An id is a segment as
  it is, so it is also the last segment of the address (`Store.exists_keyUrl_eq`), behind a path
  which is the same for all containers.
-/
import NetDelegate.Proofs.Scratch.Name
import NetDelegate.Proofs.Store.Key

namespace NetDelegate

/-! ### Ids as segments -/

namespace ContainerId

theorem isLater_of_mem {id : String} (h : isValid id = true) {c : Char} (hc : c ∈ id.toList) :
    isLater c = true := by
  obtain ⟨first, later, hid, hfirst, hlater⟩ := exists_cons_of_isValid h
  rw [hid] at hc
  rcases List.mem_cons.1 hc with rfl | hc
  · have halnum : c.isAlphanum = true := hfirst
    rw [isLater, halnum]
    rfl
  · exact List.all_eq_true.1 hlater c hc

/-- The characters of ids stand for themselves in a segment. -/
theorem segmentKeeps_of_isLater {c : Char} (h : isLater c = true) :
    Percent.segmentKeeps c = true ∧ Path.isDropped c = false ∧ c ≠ '/' ∧ c ≠ ':' ∧ c ≠ '|' := by
  have hascii : c.toNat < 128 := by
    simp only [isLater, Bool.or_eq_true, decide_eq_true_eq] at h
    rcases h with ((halnum | rfl) | rfl) | rfl
    · have hcode := isFirst_iff.1 halnum
      omega
    · decide
    · decide
    · decide
  have hall : ∀ n < 128, isLater (Char.ofNat n) = true →
      Percent.segmentKeeps (Char.ofNat n) = true ∧ Path.isDropped (Char.ofNat n) = false ∧
        Char.ofNat n ≠ '/' ∧ Char.ofNat n ≠ ':' ∧ Char.ofNat n ≠ '|' := by
    decide
  rw [← Char.ofNat_toNat c] at h ⊢
  exact hall c.toNat hascii h

theorem slash_notMem {id : String} (h : isValid id = true) : '/' ∉ id.toList :=
  fun hmem => (segmentKeeps_of_isLater (isLater_of_mem h hmem)).2.2.1 rfl

/-- An id is written as it is. -/
theorem isPlain {id : String} (h : isValid id = true) : Path.IsPlain id := by
  have hkeeps : ∀ c ∈ id.toList, Percent.segmentKeeps c = true ∧ Path.isDropped c = false ∧
      c ≠ '/' ∧ c ≠ ':' ∧ c ≠ '|' := fun c hc => segmentKeeps_of_isLater (isLater_of_mem h hc)
  obtain ⟨first, later, hid, hfirst, -⟩ := exists_cons_of_isValid h
  have hdot : first ≠ '.' := by
    rintro rfl
    exact absurd hfirst (by decide)
  refine ⟨⟨?_, ?_⟩, ?_, ?_, ?_⟩
  · rw [hid]
    rintro (heq | heq)
    · exact hdot (List.cons.inj heq).1
    · exact hdot (List.cons.inj heq).1
  · refine List.filter_eq_self.2 fun c hc => ?_
    rw [(hkeeps c hc).2.1]
    rfl
  · rw [Path.written, Percent.encode_of_keeps fun c hc => (hkeeps c hc).1, String.ofList_toList]
  · rintro rfl
    cases hid
  · unfold Path.isDrive
    split
    · next c d hcs =>
      have hd := hkeeps d (by rw [hcs]; simp)
      simp [hd.2.2.2.1, hd.2.2.2.2]
    · rfl

end ContainerId

/-! ### The key of a container -/

/-- A key prefix with a separator at its end. -/
theorem Config.exists_basePath_eq {env : Environment} {text : Bytes} {config : Config}
    (hload : Config.load env text = .ok config) :
    ∃ front, config.basePath.toList = front ++ [Config.keySeparator] := by
  obtain ⟨conf, hloads⟩ := Config.load_eq_ok_iff.1 hload
  rw [hloads.basePath]
  exact Config.exists_normalizeBasePath_eq conf.basePath

namespace Store

theorem keyParts_of_dropWhile {key : String} {c : Char} {cs : List Char}
    (h : key.toList.dropWhile (· = Config.keySeparator) = c :: cs) :
    keyParts key = splitWhere (· = Config.keySeparator) (c :: cs) := by
  rw [keyParts, h]

/-- The parts of a key: those of the prefix, which are the same for all ids, and the id. -/
theorem exists_keyParts_eq {basePath : String} {front : List Char}
    (h : basePath.toList = front ++ [Config.keySeparator]) :
    ∃ parts, ∀ id, ContainerId.isValid id = true →
      keyParts (basePath ++ id) = parts ++ [id.toList] := by
  have hslash : ∀ {id : String}, ContainerId.isValid id = true → ∀ c ∈ id.toList,
      decide (c = Config.keySeparator) = false := by
    intro id hid c hc
    refine decide_eq_false ?_
    rintro rfl
    exact ContainerId.slash_notMem hid hc
  have hkey : ∀ id : String, (basePath ++ id).toList = front ++ Config.keySeparator :: id.toList := by
    intro id
    rw [String.toList_append, h, List.append_assoc]
    rfl
  cases hinner : front.dropWhile (· = Config.keySeparator) with
  | nil =>
    -- a prefix of separators alone leaves the id
    refine ⟨[], fun id hid => ?_⟩
    obtain ⟨c, cs, hcs, -, -⟩ := ContainerId.exists_cons_of_isValid hid
    have hdrop : (basePath ++ id).toList.dropWhile (· = Config.keySeparator) = c :: cs := by
      have hc := hslash hid c (by rw [hcs]; exact List.mem_cons_self)
      rw [hkey, List.dropWhile_append, hinner, hcs]
      simp [hc]
    rw [keyParts_of_dropWhile hdrop, ← hcs, splitWhere_of_notMem (hslash hid)]
    rfl
  | cons d ds =>
    refine ⟨splitWhere (· = Config.keySeparator) (d :: ds), fun id hid => ?_⟩
    have hdrop : (basePath ++ id).toList.dropWhile (· = Config.keySeparator) =
        d :: (ds ++ Config.keySeparator :: id.toList) := by
      rw [hkey, List.dropWhile_append, hinner]
      rfl
    have hsplit : splitWhere (· = Config.keySeparator)
        (d :: ds ++ Config.keySeparator :: id.toList) =
          splitWhere (· = Config.keySeparator) (d :: ds) ++
            splitWhere (· = Config.keySeparator) id.toList := by
      refine splitWhere_append_cons ?_ (d :: ds) id.toList
      exact decide_eq_true rfl
    rw [keyParts_of_dropWhile hdrop, ← List.cons_append, hsplit, splitWhere_of_notMem (hslash hid)]

end Store

/-! ### The address of a container -/

/-- The address one segment further on. -/
def Url.appended (u : Url) (segment : String) : Url := { u with path := u.path ++ [segment] }

theorem Store.exists_keyUrl_eq {env : Environment} {text : Bytes} {config : Config}
    (hload : Config.load env text = .ok config) (top : List String) :
    ∃ path, Path.IsSlashFree path ∧ ∀ id, ContainerId.isValid id = true →
      (keyUrl config.endpoint top (config.keyFor id)).path = path ++ [id] := by
  obtain ⟨front, hfront⟩ := Config.exists_basePath_eq hload
  obtain ⟨parts, hparts⟩ := exists_keyParts_eq hfront
  let before := Path.extend (Path.withoutTrailing config.endpoint.path)
    (top.map String.toList ++ parts)
  have hbefore : Path.IsSlashFree before :=
    Path.isSlashFree_extend (Config.isWritten_endpoint hload).slashFree.withoutTrailing _
  refine ⟨if before = [""] then [] else before, ?_, fun id hid => ?_⟩
  · split
    · exact Path.isSlashFree_nil
    · exact hbefore
  · have hpath : (keyUrl config.endpoint top (config.keyFor id)).path =
        Path.push before id.toList := by
      rw [Config.keyFor, keyUrl, hparts id hid, ← List.append_assoc]
      exact List.foldl_append
    rw [hpath, Path.push_of_isPlain before (ContainerId.isPlain hid)]

/-- Different ids make different addresses. -/
theorem Url.text_appended_inj {u : Url} (hu : Path.IsSlashFree u.path) {a b : String}
    (ha : ContainerId.isValid a = true) (hb : ContainerId.isValid b = true) :
    (u.appended a).text = (u.appended b).text ↔ a = b := by
  have happended : ∀ {id : String}, ContainerId.isValid id = true →
      Path.IsSlashFree (u.path ++ [id]) := fun hid =>
    Path.isSlashFree_append.2 ⟨hu, Path.isSlashFree_singleton (ContainerId.slash_notMem hid)⟩
  constructor
  · intro htext
    have hpath := Url.path_eq_of_text_eq (happended ha) (happended hb) htext
    exact List.singleton_inj.1 (List.append_cancel_left hpath)
  · rintro rfl
    rfl

end NetDelegate
