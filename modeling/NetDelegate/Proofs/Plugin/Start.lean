/-
  NetDelegate/Proofs/Plugin/Start.lean
  ====================================
  **Which process a call starts.**  It is that of the plugin's file; it is told the command and the
  context, each in a variable of its own, and gets the configuration as its input (`Starts`).  There
  is no such process if the plugin is not found, if the search path cannot be written, or if a text
  has a character that variables cannot have (`invocation_eq_ok_iff`).
-/
import NetDelegate.Plugin.Process
import NetDelegate.Proofs.Plugin.SearchPath

namespace NetDelegate

theorem Command.word_inj {c d : Command} : c.word = d.word ↔ c = d := by
  cases c <;> cases d <;> decide

namespace Plugin

/-- The call starts this process. -/
structure Starts (isFile : Bytes → Bool) (call : Call) (i : Invocation) : Prop where
  binary_found : find isFile call.plugin call.context.path = .ok i.binary
  /-- No folder has the separator of search paths in its name. -/
  joinable : ∀ folder ∈ call.context.path, SearchPath.separator ∉ folder.toList
  variables_eq : i.variables =
    [("CNI_COMMAND", call.command.word), ("CNI_CONTAINERID", call.context.containerId),
      ("CNI_NETNS", call.context.netns), ("CNI_IFNAME", call.context.ifname),
      ("CNI_ARGS", call.context.args), ("CNI_PATH", ":".intercalate call.context.path)]
  nul_notMem : ∀ v ∈ i.variables, '\x00' ∉ v.2.toList
  input_eq : i.input = call.config

theorem hasNul_iff {s : String} : hasNul s = true ↔ '\x00' ∈ s.toList := by
  rw [hasNul, List.any_eq_true]
  constructor
  · rintro ⟨c, hc, hcode⟩
    have hnul : c = '\x00' := Char.toNat_inj.1 (of_decide_eq_true hcode)
    exact hnul ▸ hc
  · intro h
    exact ⟨'\x00', h, by decide⟩

section
variable {isFile : Bytes → Bool} {call : Call} {i : Invocation}

/-- What is started is told by the file, the variables and the input. -/
theorem Starts.eq_mk (h : Starts isFile call i) :
    i = ⟨i.binary, call.command, call.context.containerId, call.context.netns, call.context.ifname,
      call.context.args, ":".intercalate call.context.path, call.config⟩ := by
  obtain ⟨-, -, hvariables, -, hinput⟩ := h
  obtain ⟨binary, command, containerId, netns, ifname, args, path, input⟩ := i
  simp only [Invocation.variables, List.cons.injEq, Prod.mk.injEq, true_and, and_true,
    Command.word_inj] at hvariables
  obtain ⟨rfl, rfl, rfl, rfl, rfl, rfl⟩ := hvariables
  obtain rfl : input = call.config := hinput
  rfl

/-- **A call starts a process** just when there is one for it. -/
theorem invocation_eq_ok_iff : invocation isFile call = .ok i ↔ Starts isFile call i := by
  constructor
  · intro h
    unfold invocation at h
    cases hfind : find isFile call.plugin call.context.path with
    | error e =>
      rw [hfind] at h
      cases h
    | ok binary =>
      rw [hfind] at h
      simp only [bind, Except.bind] at h
      split at h
      · cases h
      · next path hjoined =>
        obtain ⟨hjoinable, rfl⟩ := SearchPath.joined?_eq_some_iff.1 hjoined
        split at h
        · cases h
        · next hnul =>
          cases h
          refine ⟨hfind, hjoinable, rfl, ?_, rfl⟩
          intro v hv hmem
          exact hnul (List.any_eq_true.2 ⟨v, hv, hasNul_iff.2 hmem⟩)
  · intro h
    have hjoined := SearchPath.joined?_eq_some_iff.2 ⟨h.joinable, rfl⟩
    have hnul : ¬(i.variables.any fun v => hasNul v.2) = true := by
      intro hany
      obtain ⟨v, hv, hmem⟩ := List.any_eq_true.1 hany
      exact h.nul_notMem v hv (hasNul_iff.1 hmem)
    rw [h.eq_mk] at hnul
    unfold invocation
    rw [h.binary_found]
    simp only [bind, Except.bind, hjoined]
    rw [if_neg hnul, ← h.eq_mk]

/-- A call starts one process at most. -/
theorem Starts.unique {j : Invocation} (hi : Starts isFile call i) (hj : Starts isFile call j) :
    i = j := by
  rw [← invocation_eq_ok_iff] at hi hj
  exact Except.ok.inj (hi.symm.trans hj)

end

end Plugin

end NetDelegate
