/-
  NetDelegate/Proofs/Program/Nesting.lean
  =======================================
  **The program as its own plugin.**  A run tells its plugins the search path as it understood it,
  without empty pieces.  A plugin that is the program again takes the path from its environment
  (`Nests`), and understands the same folders (`Nests.ofText_path_eq`).  So all runs inside each
  other look for plugins in the same folders in the same order (`search_path_handed_down`).
-/
import Mathlib.Logic.Relation
import NetDelegate.Proofs.Engine.Detach
import NetDelegate.Proofs.Plugin.Start
import NetDelegate.Proofs.Program.Options
import NetDelegate.Program

namespace NetDelegate.Program

/-- All that decides a run. -/
structure Launch where
  machine : Machine
  words : List Bytes
  input : Input

namespace Launch

/-- What the run is told. -/
def options (l : Launch) : Except UsageFault Options :=
  Options.read l.machine.environment l.words

/-- The calls of plugins in the run. -/
def calls (l : Launch) : List Call :=
  match (run l.machine l.words l.input).traces with
  | some (_, after) => after.calls
  | none => []

end Launch

/-- One run calls a plugin, and the process of the call is the other run: it is started with no
    words, and with the variables that the process is given. -/
structure Nests (outer inner : Launch) : Prop where
  called : ∃ call ∈ outer.calls, ∃ isFile i, Plugin.invocation isFile call = .ok i ∧
    ∀ v ∈ i.variables, inner.machine.environment v.1 = some (utf8 v.2)
  words_eq : inner.words = []

section
variable {m : Machine} {o : Options} {input : Input} {command : Command} {call : Call}
  {outer inner : Launch}

theorem traces_failed (f : Failure) (bytes : Bytes) (traces : Option (Bytes × State)) :
    (failed f bytes traces).traces = traces := by
  cases f <;> rfl

theorem traces_ended {α : Type} (output : α → Bytes) (bytes stateDir : Bytes)
    (x : Except Failure α × State) : (ended output bytes stateDir x).traces = some (stateDir, x.2) := by
  obtain ⟨r, after⟩ := x
  cases r with
  | ok v => rfl
  | error f => exact traces_failed f bytes _

/-- The calls of a run that sets up or tears down are for the container that it is told of. -/
theorem context_of_traces_delegate {stateDir : Bytes} {after : State}
    (h : (delegate m o command input).traces = some (stateDir, after)) (hcall : call ∈ after.calls) :
    o.context = .ok call.context := by
  unfold delegate at h
  split at h
  · rw [traces_failed] at h
    cases h
  · split at h
    · rw [traces_failed] at h
      cases h
    · next context hcontext =>
      have hmade : ∃ made, after.calls = (m.start o.stateDir).calls ++ made ∧
          ∀ call ∈ made, call.context = context := by
        split at h
        · rw [traces_ended] at h
          cases h
          obtain ⟨made, hcalls, hmade⟩ :=
            Engine.exists_calls_attach m.world context input.bytes (m.start o.stateDir)
          exact ⟨made, hcalls, fun call hmem => (hmade call hmem).2⟩
        · rw [traces_ended] at h
          cases h
          obtain ⟨made, hcalls, hmade⟩ :=
            Engine.exists_calls_detach m.world context (m.start o.stateDir)
          exact ⟨made, hcalls, fun call hmem => (hmade call hmem).2⟩
      obtain ⟨made, hcalls, hmade⟩ := hmade
      -- a run begins with no calls
      rw [hcalls, show (m.start o.stateDir).calls = [] from rfl, List.nil_append] at hcall
      rw [hcontext, hmade call hcall]

theorem exists_options_of_mem_calls (h : call ∈ outer.calls) :
    ∃ o, outer.options = .ok o ∧ o.context = .ok call.context := by
  unfold Launch.calls at h
  split at h
  · next stateDir after htraces =>
    unfold run at htraces
    split at htraces
    · cases htraces
    · rw [traces_failed] at htraces
      cases htraces
    · next o ho =>
      split at htraces
      · cases htraces
      · exact ⟨o, ho, context_of_traces_delegate htraces h⟩
  · cases h

theorem path_of_context {context : Context} (h : o.context = .ok context) :
    context.path = SearchPath.ofText o.path := by
  obtain ⟨-, -, hcontext⟩ := Options.context_eq_ok_iff.1 h
  rw [hcontext]

theorem path_mem_variables {isFile : Bytes → Bool} {i : Invocation}
    (h : Plugin.invocation isFile call = .ok i) :
    ("CNI_PATH", ":".intercalate call.context.path) ∈ i.variables := by
  rw [(Plugin.invocation_eq_ok_iff.1 h).variables_eq]
  simp

/-! ### Runs inside each other -/

/-- **The inner run understands the same folders.** -/
theorem Nests.ofText_path_eq (h : Nests outer inner) {o o' : Options}
    (ho : outer.options = .ok o) (ho' : inner.options = .ok o') :
    SearchPath.ofText o'.path = SearchPath.ofText o.path := by
  obtain ⟨⟨call, hcall, isFile, i, hi, hvariables⟩, hwords⟩ := h
  obtain ⟨_, hsame, hcontext⟩ := exists_options_of_mem_calls hcall
  obtain rfl := Except.ok.inj (ho.symm.trans hsame)
  have hgiven := hvariables _ (path_mem_variables hi)
  rw [path_of_context hcontext] at hgiven
  rw [Launch.options, hwords] at ho'
  rw [Options.path_of_variable ho' hgiven]
  exact SearchPath.ofText_intercalate_ofText o.path

/-- It does so however many runs are between the two. -/
theorem ofText_path_eq_of_nested (h : Relation.ReflTransGen Nests outer inner) {o o' : Options}
    (ho : outer.options = .ok o) (ho' : inner.options = .ok o') :
    SearchPath.ofText o'.path = SearchPath.ofText o.path := by
  induction h generalizing o' with
  | refl => rw [Except.ok.inj (ho'.symm.trans ho)]
  | tail hnested hnests ih =>
    obtain ⟨call, hcall, -⟩ := hnests.called
    obtain ⟨between, hbetween, -⟩ := exists_options_of_mem_calls hcall
    rw [hnests.ofText_path_eq hbetween ho', ih hbetween]

end

/-- **The search path survives being handed down.**  It is taken from its variable as it is.  The
    folders are its pieces between separators that are not empty, in order, and they are those of
    the context.  They can always be joined, a process is given them joined, and this is read as
    the same folders.  So in a run that is told this path, and in all runs inside it, plugins are
    looked for in these folders, in this order. -/
theorem search_path_handed_down (s : String) :
    (∀ env o, Options.read env [] = .ok o → env "CNI_PATH" = some (utf8 s) → o.path = s) ∧
    let path := SearchPath.ofText s
    path = ((s.toList.splitOn ':').filter (· ≠ [])).map String.ofList ∧
    (∀ (o : Options) context, o.path = s → o.context = .ok context → context.path = path) ∧
    path.joined? = some (":".intercalate path) ∧
    (∀ (call : Call) isFile i, call.context.path = path → Plugin.invocation isFile call = .ok i →
      ("CNI_PATH", ":".intercalate path) ∈ i.variables) ∧
    SearchPath.ofText (":".intercalate path) = path ∧
    ∀ (outer inner : Launch) o, outer.options = .ok o → o.path = s →
      Relation.ReflTransGen Nests outer inner → ∀ call ∈ inner.calls, call.context.path = path := by
  refine ⟨fun env o => Options.path_of_variable, ?_⟩
  intro path
  refine ⟨SearchPath.ofText_eq s, ?_, SearchPath.joined?_ofText s, ?_,
    SearchPath.ofText_intercalate_ofText s, ?_⟩
  · rintro o context rfl hcontext
    exact path_of_context hcontext
  · intro call isFile i hpath hi
    rw [← hpath]
    exact path_mem_variables hi
  · rintro outer inner o ho rfl hnested call hcall
    obtain ⟨o', ho', hcontext⟩ := exists_options_of_mem_calls hcall
    rw [path_of_context hcontext]
    exact ofText_path_eq_of_nested hnested ho ho'

end NetDelegate.Program
