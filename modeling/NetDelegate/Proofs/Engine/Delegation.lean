/-
  NetDelegate/Proofs/Engine/Delegation.lean
  =========================================
  **The calls that are made for a list of entries.**  Entries are handled in order and each once,
  up to the first that comes to nothing: one that names no plugin, for which there is no call, or
  one whose call fails.  `Course` tells the three ways in which this can end, and `course` that
  handling a list always takes one of them.

  Which plugins are called, and with what, depends on the list alone: the errands of a course are
  a prefix of the errands of the list (`Course.errands_prefix`), whatever the command, the
  container and the answers, and all of them when no call fails (`Course.errands_eq`).  This is
  why deleting does again what adding did.
-/
import Mathlib.Data.List.Forall2
import NetDelegate.Engine

namespace NetDelegate.Engine

/-! ### Calls of entries -/

/-- This is the call for an entry: its plugin, with its configuration, for the container. -/
structure IsCallFor (command : Command) (context : Context) (entry : NetworkEntry)
    (call : Call) : Prop where
  command_eq : call.command = command
  plugin_eq : entry.plugin? = some call.plugin
  config_eq : call.config = entry.bytes
  context_eq : call.context = context

/-- These calls were made in this order and gave these answers. -/
inductive Answered {α : Type} (handle : List Call → Call → Except Error α) :
    List Call → List Call → List α → Prop
  | nil {earlier : List Call} : Answered handle earlier [] []
  | cons {earlier : List Call} {call : Call} {calls : List Call} {answer : α} {answers : List α}
      (hcall : handle earlier call = .ok answer)
      (hcalls : Answered handle (earlier ++ [call]) calls answers) :
      Answered handle earlier (call :: calls) (answer :: answers)

section
variable {α : Type} {handle : List Call → Call → Except Error α} {command : Command}
  {context : Context} {index : Nat} {earlier : List Call} {entries : List NetworkEntry}

theorem callFor_eq_ok_iff {entry : NetworkEntry} {call : Call} :
    callFor command context index entry = .ok call ↔ IsCallFor command context entry call := by
  unfold callFor
  cases hp : entry.plugin? with
  | none =>
    constructor
    · intro h
      cases h
    · intro h
      have := h.plugin_eq
      rw [hp] at this
      cases this
  | some plugin =>
    constructor
    · intro h
      cases h
      exact ⟨rfl, hp, rfl, rfl⟩
    · rintro ⟨hcommand, hplugin, hconfig, hcontext⟩
      rw [hp] at hplugin
      rw [Option.some.inj hplugin, ← hcommand, ← hconfig, ← hcontext]

theorem callFor_eq_error_iff {entry : NetworkEntry} {e : Error} :
    callFor command context index entry = .error e ↔
      entry.plugin? = none ∧ e = .missingType index := by
  unfold callFor
  cases hp : entry.plugin? with
  | none => simp [eq_comm]
  | some plugin => simp

/-- The call that fails comes after those that were answered. -/
theorem Answered.handle_eq_ok {made after : List Call} {call : Call} {answers : List α}
    (h : Answered handle earlier (made ++ call :: after) answers) :
    ∃ answer, handle (earlier ++ made) call = .ok answer := by
  induction made generalizing earlier answers with
  | nil =>
    rw [List.nil_append] at h
    cases h with
    | cons hcall hcalls => exact ⟨_, by rw [List.append_nil, hcall]⟩
  | cons first made ih =>
    rw [List.cons_append] at h
    cases h with
    | cons hcall hcalls =>
      obtain ⟨answer, hanswer⟩ := ih hcalls
      rw [List.append_assoc, List.singleton_append] at hanswer
      exact ⟨answer, hanswer⟩

/-! ### Courses -/

/-- What handling a list of entries can come to: the calls that are made and the outcome. -/
inductive Course (handle : List Call → Call → Except Error α) (command : Command)
    (context : Context) (index : Nat) (earlier : List Call) (entries : List NetworkEntry) :
    List Call → Except Error (List α) → Prop
  /-- Every entry has its call, and every call succeeds. -/
  | finished {made : List Call} {answers : List α}
      (hmade : List.Forall₂ (IsCallFor command context) entries made)
      (hanswers : Answered handle earlier made answers) :
      Course handle command context index earlier entries made (.ok answers)
  /-- The call for an entry fails; those before it succeeded, and none follows. -/
  | failed {before : List NetworkEntry} {entry : NetworkEntry} {after : List NetworkEntry}
      {made : List Call} {call : Call} {answers : List α} {e : Error}
      (hentries : entries = before ++ entry :: after)
      (hmade : List.Forall₂ (IsCallFor command context) before made)
      (hanswers : Answered handle earlier made answers)
      (hcall : IsCallFor command context entry call)
      (hfails : handle (earlier ++ made) call = .error e) :
      Course handle command context index earlier entries (made ++ [call]) (.error e)
  /-- An entry names no plugin; the calls for those before it succeeded, and none follows. -/
  | untyped {before : List NetworkEntry} {entry : NetworkEntry} {after : List NetworkEntry}
      {made : List Call} {answers : List α}
      (hentries : entries = before ++ entry :: after)
      (hmade : List.Forall₂ (IsCallFor command context) before made)
      (hanswers : Answered handle earlier made answers)
      (hplugin : entry.plugin? = none) :
      Course handle command context index earlier entries made
        (.error (.missingType (index + before.length)))

theorem Course.cons {entry : NetworkEntry} {call : Call} {answer : α} {made : List Call}
    {r : Except Error (List α)} (hcall : IsCallFor command context entry call)
    (hanswer : handle earlier call = .ok answer)
    (h : Course handle command context (index + 1) (earlier ++ [call]) entries made r) :
    Course handle command context index earlier (entry :: entries) (call :: made)
      (r.map (answer :: ·)) := by
  cases h with
  | finished hmade hanswers => exact .finished (.cons hcall hmade) (.cons hanswer hanswers)
  | failed hentries hmade hanswers hlast hfails =>
    rw [List.append_assoc] at hfails
    exact .failed (congrArg (entry :: ·) hentries) (.cons hcall hmade) (.cons hanswer hanswers)
      hlast hfails
  | untyped hentries hmade hanswers hplugin =>
    rw [Nat.add_assoc, Nat.add_comm 1]
    exact .untyped (congrArg (entry :: ·) hentries) (.cons hcall hmade) (.cons hanswer hanswers)
      hplugin

/-- The calls of a course belong to the entries at the start of the list. -/
theorem Course.exists_isCallFor {made : List Call} {r : Except Error (List α)}
    (h : Course handle command context index earlier entries made r) :
    ∃ before after, entries = before ++ after ∧
      List.Forall₂ (IsCallFor command context) before made := by
  cases h with
  | finished hmade hanswers => exact ⟨entries, [], (List.append_nil _).symm, hmade⟩
  | @failed before entry after _ _ _ _ hentries hmade hanswers hcall hfails =>
    rw [List.append_cons] at hentries
    exact ⟨before ++ [entry], after, hentries, List.rel_append hmade (.cons hcall .nil)⟩
  | untyped hentries hmade hanswers hplugin => exact ⟨_, _, hentries, hmade⟩

/-- Every call of a course is made with the command and for the container. -/
theorem Course.of_mem {made : List Call} {r : Except Error (List α)}
    (h : Course handle command context index earlier entries made r) :
    ∀ call ∈ made, call.command = command ∧ call.context = context := by
  obtain ⟨before, after, -, hmade⟩ := h.exists_isCallFor
  clear h
  induction hmade with
  | nil => simp
  | cons hcall hcalls ih =>
    intro call hmem
    rcases List.mem_cons.1 hmem with rfl | hmem
    · exact ⟨hcall.command_eq, hcall.context_eq⟩
    · exact ih call hmem

theorem calls_append_call (events : List Event) (call : Call) :
    Event.calls (events ++ [.call call]) = Event.calls events ++ [call] := by
  rw [Event.calls, List.filterMap_append]
  rfl

theorem calls_append_map_call (events : List Event) (made : List Call) :
    Event.calls (events ++ made.map .call) = Event.calls events ++ made := by
  rw [Event.calls, List.filterMap_append, List.filterMap_map]
  exact congrArg (Event.calls events ++ ·) List.filterMap_some

theorem calls_append_of_no_call {act : Event} (h : act.call? = none) (events : List Event) :
    Event.calls (events ++ [act]) = Event.calls events := by
  rw [Event.calls, List.filterMap_append, List.filterMap_cons_none h]
  exact List.append_nil _

/-- Calls behind an act that is none. -/
theorem calls_append_act {act : Event} (h : act.call? = none) (events : List Event)
    (made : List Call) :
    Event.calls (events ++ act :: made.map .call) = Event.calls events ++ made := by
  rw [List.append_cons, calls_append_map_call, calls_append_of_no_call h]

theorem delegate_cons_of_answer {entry : NetworkEntry} {events : List Event} {call : Call}
    {answer : α} (hcall : callFor command context index entry = .ok call)
    (hanswer : handle (Event.calls events) call = .ok answer) :
    delegate handle command context index (entry :: entries) events =
      ((delegate handle command context (index + 1) entries (events ++ [.call call])).1.map
          (answer :: ·),
        (delegate handle command context (index + 1) entries (events ++ [.call call])).2) := by
  simp only [delegate, hcall, hanswer]
  split
  · next heq => rw [heq]; rfl
  · next heq => rw [heq]; rfl

/-- **Handling a list takes one of the courses,** and adds its calls to what was done before. -/
theorem course (handle : List Call → Call → Except Error α) (command : Command)
    (context : Context) (index : Nat) (entries : List NetworkEntry) (events : List Event) :
    ∃ made, (delegate handle command context index entries events).2 = events ++ made.map .call ∧
      Course handle command context index (Event.calls events) entries made
        (delegate handle command context index entries events).1 := by
  -- along the list: each case of the first entry is one way to end, or goes on with the rest
  induction entries generalizing index events with
  | nil => exact ⟨[], (List.append_nil events).symm, .finished .nil .nil⟩
  | cons entry entries ih =>
    cases hcall : callFor command context index entry with
    | error e =>
      obtain ⟨hplugin, rfl⟩ := callFor_eq_error_iff.1 hcall
      simp only [delegate, hcall]
      exact ⟨[], (List.append_nil events).symm, .untyped (List.nil_append _).symm .nil .nil hplugin⟩
    | ok call =>
      have hmade := callFor_eq_ok_iff.1 hcall
      cases hanswer : handle (Event.calls events) call with
      | error e =>
        have hfails : handle (Event.calls events ++ []) call = .error e := by
          rw [List.append_nil, hanswer]
        simp only [delegate, hcall, hanswer]
        exact ⟨[call], rfl, .failed (List.nil_append _).symm .nil .nil hmade hfails⟩
      | ok answer =>
        obtain ⟨made, hevents, hcourse⟩ := ih (index + 1) (events ++ [.call call])
        rw [calls_append_call] at hcourse
        rw [delegate_cons_of_answer hcall hanswer]
        refine ⟨call :: made, ?_, hcourse.cons hmade hanswer⟩
        rw [hevents, List.map_cons, List.append_assoc, List.singleton_append]

/-- An act upon the record before the calls is no call, so that it does not count for them. -/
theorem course_after (handle : List Call → Call → Except Error α) (command : Command)
    (context : Context) (entries : List NetworkEntry) (events : List Event) (act : Event)
    (hact : act.call? = none) :
    ∃ made, (delegate handle command context 0 entries (events ++ [act])).2 =
        events ++ act :: made.map .call ∧
      Course handle command context 0 (Event.calls events) entries made
        (delegate handle command context 0 entries (events ++ [act])).1 := by
  obtain ⟨made, hevents, hcourse⟩ := course handle command context 0 entries (events ++ [act])
  rw [List.append_assoc, List.singleton_append] at hevents
  rw [calls_append_of_no_call hact] at hcourse
  exact ⟨made, hevents, hcourse⟩

/-- Where every entry has a call and every call succeeds, the list is handled to its end. -/
theorem delegate_of_answered {events : List Event} {calls : List Call} {answers : List α}
    (hcalls : List.Forall₂ (IsCallFor command context) entries calls)
    (hanswers : Answered handle (Event.calls events) calls answers) :
    (delegate handle command context index entries events).1 = .ok answers := by
  induction hcalls generalizing index events answers with
  | nil =>
    cases hanswers with
    | nil => rfl
  | @cons entry call entries calls hcall hcalls ih =>
    cases hanswers with
    | cons hanswer hanswers =>
      rw [delegate_cons_of_answer (callFor_eq_ok_iff.2 hcall) hanswer]
      rw [ih ((calls_append_call events call).symm ▸ hanswers)]
      rfl

/-- A list is handled to its end just when every entry has a call and every call succeeds. -/
theorem delegate_eq_ok_iff {events : List Event} {answers : List α} :
    (delegate handle command context index entries events).1 = .ok answers ↔
      ∃ calls, List.Forall₂ (IsCallFor command context) entries calls ∧
        Answered handle (Event.calls events) calls answers := by
  constructor
  · intro hok
    obtain ⟨made, -, hcourse⟩ := course handle command context index entries events
    rw [hok] at hcourse
    cases hcourse with
    | finished hmade hanswers => exact ⟨made, hmade, hanswers⟩
  · rintro ⟨calls, hcalls, hanswers⟩
    exact delegate_of_answered hcalls hanswers

/-! ### Errands -/

/-- What a call has a plugin do, whatever the command and the container: the plugin and its
    configuration. -/
def errand (call : Call) : String × Bytes := (call.plugin, call.config)

/-- The errands of a list: one for each entry, up to the first that names no plugin. -/
def errands : List NetworkEntry → List (String × Bytes)
  | [] => []
  | entry :: entries =>
    match entry.plugin? with
    | some plugin => (plugin, entry.bytes) :: errands entries
    | none => []

theorem errands_append {before : List NetworkEntry} {made : List Call}
    (h : List.Forall₂ (IsCallFor command context) before made) (after : List NetworkEntry) :
    errands (before ++ after) = made.map errand ++ errands after := by
  induction h with
  | nil => rfl
  | cons hcall hcalls ih =>
    rw [List.cons_append, errands, hcall.plugin_eq, ih, ← hcall.config_eq]
    rfl

theorem Course.errands_prefix {made : List Call} {r : Except Error (List α)}
    (h : Course handle command context index earlier entries made r) :
    made.map errand <+: errands entries := by
  obtain ⟨before, after, hentries, hmade⟩ := h.exists_isCallFor
  rw [hentries, errands_append hmade]
  exact List.prefix_append _ _

/-- When no call fails, no errand is left. -/
theorem Course.errands_eq {made : List Call} {answers : List α} {r : Except Error (List α)}
    (h : Course handle command context index earlier entries made r)
    (hanswers : Answered handle earlier made answers) : made.map errand = errands entries := by
  cases h with
  | finished hmade _ =>
    rw [← List.append_nil entries, errands_append hmade]
    exact (List.append_nil _).symm
  | failed hentries hmade _ hcall hfails =>
    -- the last call was answered, so it is not the one that failed
    obtain ⟨answer, hok⟩ := hanswers.handle_eq_ok
    rw [hfails] at hok
    cases hok
  | untyped hentries hmade _ hplugin =>
    rw [hentries, errands_append hmade, errands, hplugin]
    exact (List.append_nil _).symm

/-- An error is that of an entry without a plugin or that of a call. -/
theorem Course.of_error {made : List Call} {e : Error}
    (h : Course handle command context index earlier entries made (.error e)) :
    (∃ i, e = .missingType i) ∨ ∃ before call, made = before ++ [call] ∧
      handle (earlier ++ before) call = .error e := by
  cases h with
  | failed hentries hmade hanswers hcall hfails => exact .inr ⟨_, _, rfl, hfails⟩
  | untyped hentries hmade hanswers hplugin => exact .inl ⟨_, rfl⟩

end

end NetDelegate.Engine
