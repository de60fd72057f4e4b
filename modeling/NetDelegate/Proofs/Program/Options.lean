/-
  NetDelegate/Proofs/Program/Options.lean
  =======================================
  **What plugins are told is what the program is told** (`context_eq_ok_iff`).  An option that is
  not among the words is taken from its variable; for the search path this is what
  `path_of_read_nil` and `path_of_variable` say.
-/
import NetDelegate.Options
import NetDelegate.Proofs.Json.Token
import NetDelegate.Proofs.Text.Utf8

namespace NetDelegate.Options

/-- The context has the options, and an id that is one. -/
theorem context_eq_ok_iff {o : Options} {context : Context} :
    o.context = .ok context ↔
      o.containerId = some context.containerId ∧ ContainerId.check context.containerId = .ok () ∧
        context = ⟨context.containerId, o.netns, o.ifname, o.args, SearchPath.ofText o.path⟩ := by
  unfold Options.context
  cases hid : o.containerId with
  | none => exact iff_of_false nofun nofun
  | some id =>
    dsimp only
    cases hcheck : ContainerId.check id with
    | error f =>
      refine iff_of_false nofun ?_
      rintro ⟨hsame, hvalid, -⟩
      rw [← Option.some.inj hsame, hcheck] at hvalid
      cases hvalid
    | ok u =>
      constructor
      · intro h
        cases h
        exact ⟨rfl, hcheck, rfl⟩
      · rintro ⟨hsame, -, hcontext⟩
        rw [hcontext, ← Option.some.inj hsame]
        rfl

/-! ### Options from the environment -/

namespace Draft

variable {env : Environment} {d d' : Draft} {p : Parameter}

/-- One step of taking options from the environment. -/
def fillNext (env : Environment) (d : Draft) (p : Parameter) : Except UsageFault Draft :=
  if d.has p then .ok d
  else match env p.variableName with
    | some value => d.set p value
    | none => .ok d

theorem path_set (hp : p ≠ .path) {value : Bytes} (h : d.set p value = .ok d') :
    d'.path = d.path := by
  cases p with
  | path => exact absurd rfl hp
  | _ =>
    obtain ⟨v, -, rfl⟩ := Json.exists_of_map_eq_ok h
    rfl

theorem path_fillNext (hp : p ≠ .path) (h : d.fillNext env p = .ok d') : d'.path = d.path := by
  unfold fillNext at h
  split at h
  · cases h
    rfl
  · split at h
    · exact path_set hp h
    · cases h
      rfl

theorem path_foldlM_fillNext {ps : List Parameter} (hp : .path ∉ ps)
    (h : ps.foldlM (fillNext env) d = .ok d') : d'.path = d.path := by
  induction ps generalizing d with
  | nil =>
    cases h
    rfl
  | cons p ps ih =>
    rw [List.mem_cons, not_or] at hp
    rw [List.foldlM_cons] at h
    cases hnext : d.fillNext env p with
    | error e =>
      rw [hnext] at h
      cases h
    | ok next =>
      rw [hnext] at h
      rw [ih hp.2 h, path_fillNext (Ne.symm hp.1) hnext]

theorem path_fillNext_path (h : d.fillNext env .path = .ok d') :
    d'.path = d.path.or (env.text? "CNI_PATH") := by
  unfold fillNext at h
  split at h
  · next hgiven =>
    cases h
    obtain ⟨s, hs⟩ := Option.isSome_iff_exists.1 hgiven
    rw [hs, Option.some_or]
  · next hnone =>
    have hpath : d.path = none := Option.not_isSome_iff_eq_none.1 hnone
    rw [hpath, Option.none_or, Environment.text?]
    have hname : Parameter.variableName .path = "CNI_PATH" := rfl
    rw [hname] at h
    cases hvalue : env "CNI_PATH" with
    | none =>
      rw [hvalue] at h
      cases h
      exact hpath
    | some value =>
      rw [hvalue] at h
      obtain ⟨s, htext, rfl⟩ := Json.exists_of_map_eq_ok h
      rw [Option.bind_some]
      unfold text at htext
      split at htext
      · next hs =>
        cases htext
        exact hs.symm
      · cases htext

/-- A search path that is not given is that of the environment. -/
theorem path_fill (h : d.fill env = .ok d') : d'.path = d.path.or (env.text? "CNI_PATH") := by
  -- the search path is looked at once, between options that leave it alone
  have hall : Parameter.all = [.command, .containerId, .netns, .ifname, .args] ++
      .path :: [.stateDir, .logFormat] := rfl
  have hfold : Parameter.all.foldlM (fillNext env) d = .ok d' := h
  rw [hall, List.foldlM_append] at hfold
  obtain ⟨before, hbefore, hfold⟩ := Json.exists_of_bind_eq_ok hfold
  rw [List.foldlM_cons] at hfold
  obtain ⟨next, hnext, hafter⟩ := Json.exists_of_bind_eq_ok hfold
  rw [path_foldlM_fillNext (by decide) hafter, path_fillNext_path hnext,
    path_foldlM_fillNext (by decide) hbefore]

end Draft

/-- Without words, the search path is that of the environment, or empty. -/
theorem path_of_read_nil {env : Environment} {o : Options} (h : read env [] = .ok o) :
    o.path = (env.text? "CNI_PATH").getD "" := by
  obtain ⟨filled, hfilled, hfinish⟩ : ∃ filled, Draft.empty.fill env = .ok filled ∧
      filled.finish = .ok o := Json.exists_of_bind_eq_ok h
  have hpath := Draft.path_fill hfilled
  unfold Draft.finish at hfinish
  split at hfinish
  · cases hfinish
  · cases hfinish
    exact congrArg (Option.getD · "") hpath

theorem path_of_variable {env : Environment} {o : Options} {s : String}
    (h : read env [] = .ok o) (hs : env "CNI_PATH" = some (utf8 s)) : o.path = s := by
  have htext : env.text? "CNI_PATH" = some s := by
    rw [Environment.text?, hs]
    exact Bytes.text?_eq_some_iff.2 rfl
  rw [path_of_read_nil h, htext, Option.getD_some]

end NetDelegate.Options
