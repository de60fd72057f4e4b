/-
  NetDelegate/Proofs/Engine/Detach.lean
  =====================================
  **What tearing down does, and that it is done once.**  The record is taken before any plugin is
  called, so that it is gone whatever the plugins answer (`detach_of_taken`).  Only saving brings
  it back (`Gone.perform`), or saving another record through a link; until then it cannot be taken
  again, and without a record no plugin is called.
-/
import NetDelegate.Proofs.Engine.Run

namespace NetDelegate.Engine

open Scratch (DraftsArePlain IsLink draftName recordName)

/-! ### One teardown -/

section
variable {w : World} {context : Context} {s : State}

theorem detach_of_take_error {e : Failure}
    (h : (Scratch.take w.pid s.scratch context.containerId w.disk).1 = .error e) :
    (detach w context s).1 = .error e ∧ (detach w context s).2.calls = s.calls := by
  cases hid : ContainerId.check context.containerId with
  | error refusal =>
    rw [Scratch.take_of_check_error hid] at h
    cases h
    simp only [detach, hid, and_self]
  | ok u =>
    obtain ⟨scratch, htake⟩ : ∃ scratch,
        Scratch.take w.pid s.scratch context.containerId w.disk = (.error e, scratch) :=
      ⟨_, Prod.ext h rfl⟩
    simp only [detach, hid, htake, true_and]
    exact calls_append_of_no_call rfl s.events

/-- What is done with the bytes of a record that was taken. -/
theorem detach_of_taken {value : Bytes}
    (h : (Scratch.take w.pid s.scratch context.containerId w.disk).1 = .ok value) :
    ∃ made, (detach w context s).2.events =
        s.events ++ .take context.containerId :: made.map .call ∧
      match NetworkList.parse value with
      | .error e => made = [] ∧ (detach w context s).1 = .error e
      | .ok list =>
        ∃ r, Course w.delegator.detach .del context 0 s.calls list.entries made r ∧
          (detach w context s).1 = lift (r.map fun _ => ()) := by
  obtain ⟨scratch, htake⟩ : ∃ scratch,
      Scratch.take w.pid s.scratch context.containerId w.disk = (.ok value, scratch) :=
    ⟨_, Prod.ext h rfl⟩
  cases hparse : NetworkList.parse value with
  | ok list =>
    obtain ⟨made, r, hcourse, hdetach⟩ := detach_of_take htake hparse
    rw [hdetach]
    exact ⟨made, rfl, r, hcourse, rfl⟩
  | error e =>
    have hid := ContainerId.check_eq_ok_iff.2 (Scratch.find?_recordName_take h).1
    have hdetach : detach w context s =
        (.error e, ⟨scratch, s.requests, s.events ++ [.take context.containerId]⟩) := by
      simp only [detach, hid, htake, hparse]
    rw [hdetach]
    exact ⟨[], rfl, rfl, rfl⟩

/-- Tearing down adds calls for the container to those that were made before. -/
theorem exists_calls_detach (w : World) (context : Context) (s : State) :
    ∃ made, (detach w context s).2.calls = s.calls ++ made ∧
      ∀ call ∈ made, call.command = .del ∧ call.context = context := by
  cases htake : (Scratch.take w.pid s.scratch context.containerId w.disk).1 with
  | error e =>
    rw [(detach_of_take_error htake).2]
    exact ⟨[], (List.append_nil _).symm, List.forall_mem_nil _⟩
  | ok value =>
    obtain ⟨made, hevents, hdone⟩ := detach_of_taken htake
    refine ⟨made, ?_, ?_⟩
    · rw [State.calls, hevents]
      exact calls_append_act rfl s.events made
    · cases hparse : NetworkList.parse value with
      | error e =>
        rw [hparse] at hdone
        rw [hdone.1]
        exact List.forall_mem_nil _
      | ok list =>
        rw [hparse] at hdone
        obtain ⟨r, hcourse, -⟩ := hdone
        exact hcourse.of_mem

/-- Tearing down succeeds just when the record spells a list, every entry has a call and every
    call succeeds. -/
theorem detach_eq_ok_iff :
    (detach w context s).1 = .ok () ↔
      ∃ value list calls answers,
        (Scratch.take w.pid s.scratch context.containerId w.disk).1 = .ok value ∧
        NetworkList.parse value = .ok list ∧
        List.Forall₂ (IsCallFor .del context) list.entries calls ∧
        Answered w.delegator.detach s.calls calls answers := by
  constructor
  · intro hok
    cases htake : (Scratch.take w.pid s.scratch context.containerId w.disk).1 with
    | error e =>
      rw [(detach_of_take_error htake).1] at hok
      cases hok
    | ok value =>
      obtain ⟨made, -, hdone⟩ := detach_of_taken htake
      cases hparse : NetworkList.parse value with
      | error e =>
        rw [hparse] at hdone
        rw [hdone.2] at hok
        cases hok
      | ok list =>
        rw [hparse] at hdone
        obtain ⟨r, hcourse, hr⟩ := hdone
        cases hcourse with
        | finished hmade hanswers => exact ⟨value, list, made, _, rfl, hparse, hmade, hanswers⟩
        | failed => rw [hr] at hok; cases hok
        | untyped => rw [hr] at hok; cases hok
  · rintro ⟨value, list, calls, answers, htake, hparse, hcalls, hanswers⟩
    have hid := ContainerId.check_eq_ok_iff.2 (Scratch.find?_recordName_take htake).1
    obtain ⟨scratch, htaken⟩ : ∃ scratch,
        Scratch.take w.pid s.scratch context.containerId w.disk = (.ok value, scratch) :=
      ⟨_, Prod.ext htake rfl⟩
    -- the record being taken is no call, so the calls begin as after `s`
    have hcount : Event.calls (s.events ++ [.take context.containerId]) = s.calls :=
      calls_append_of_no_call rfl s.events
    rw [← hcount] at hanswers
    have hdelegate : (delegate w.delegator.detach .del context 0 list.entries
        (s.events ++ [.take context.containerId])).1 = .ok answers :=
      delegate_of_answered hcalls hanswers
    simp only [detach, hid, htaken, hparse, hdelegate]
    rfl

end

/-! ### Until the record is saved again -/

/-- The operation saves a record for a container, whether the folder is brought to the disk then or
    not. -/
def Saves (id : String) (s : State) : Operation → Prop
  | .attach w context raw =>
    context.containerId = id ∧ ∃ value list log,
      Retrieval w context raw s.requests (.ok (value, list)) log ∧
        (Scratch.save s.scratch id value w.disk).1 = .ok ()
  | .detach .. => False

/-- The operation saves through a link, which stands under the name of its draft. -/
def SavesThroughLink (s : State) : Operation → Prop
  | .attach _ context _ => IsLink (s.scratch.find? (draftName context.containerId))
  | .detach .. => False

/-- The operation tears a container down and comes to call plugins for it. -/
def Deletes (id : String) (s : State) : Operation → Prop
  | .attach .. => False
  | .detach w context => context.containerId = id ∧ (detach w context s).2.calls ≠ s.calls

/-- The record of an id is not there. -/
def Gone (id : String) (s : State) : Prop := s.scratch.find? (recordName id) = none

theorem scratch_perform_of_not_saves {id : String} {s : State} {op : Operation}
    (h : ¬ Saves id s op) (hlink : ¬ SavesThroughLink s op) :
    (perform s op).scratch = s.scratch ∨ ∃ x,
      (perform s op).scratch = (Scratch.perform s.scratch x).2 ∧ x.IsPlain s.scratch ∧
        ∀ data answer, (Scratch.perform s.scratch x).1 ≠ .put id data true answer := by
  cases op with
  | detach w context =>
    refine .inr ⟨_, scratch_detach w context s, trivial, fun data answer heq => ?_⟩
    cases heq
  | attach w context raw =>
    obtain ⟨retrieved, log, hretrieved⟩ := retrieval w context raw s.requests
    match retrieved with
    | .error e =>
      rw [perform, attach_of_error hretrieved]
      exact .inl rfl
    | .ok (value, list) =>
      refine .inr ⟨.put context.containerId value w.disk, ?_, hlink, fun data answer heq => h ?_⟩
      · rcases hput : Scratch.put s.scratch context.containerId value w.disk with ⟨e | u, scratch⟩
        · rw [perform, attach_of_put_error hretrieved hput, Scratch.perform, hput]
        · obtain ⟨made, r, -, -, hattach⟩ := attach_of_put hretrieved hput
          rw [perform, hattach, Scratch.perform, hput]
      · obtain ⟨hid, hdata, hsaved, -⟩ := Scratch.Exchange.put.inj heq
        subst hid hdata
        refine ⟨rfl, value, list, log, hretrieved, ?_⟩
        cases hsave : (Scratch.save s.scratch context.containerId value w.disk).1 with
        | ok u => rfl
        | error e =>
          rw [hsave] at hsaved
          cases hsaved

/-- A record whose folder is brought to the disk has been put. -/
theorem Saves.exists_put {id : String} {s : State} {w : World} {context : Context} {raw : Bytes}
    (h : Saves id s (.attach w context raw)) (hsyncing : w.disk.syncing = none) :
    ∃ value, (Scratch.put s.scratch id value w.disk).1 = .ok () := by
  obtain ⟨-, value, list, log, -, hsave⟩ := h
  exact ⟨value, Scratch.put_eq_ok_iff_save.2 ⟨hsave, hsyncing⟩⟩

/-- A record that is gone stays so until it is saved. -/
theorem Gone.perform {id : String} (hid : ContainerId.isValid id = true) {s : State}
    (h : Gone id s) {op : Operation} (hop : ¬ Saves id s op) (hlink : ¬ SavesThroughLink s op) :
    Gone id (perform s op) := by
  rcases scratch_perform_of_not_saves hop hlink with hsame | ⟨x, hx, hplain, hunsaved⟩
  · rw [Gone, hsame]
    exact h
  · rw [Gone, hx]
    exact Scratch.find?_recordName_perform_eq_none hplain hid h hunsaved

theorem draftsArePlain_perform {s : State} (h : DraftsArePlain s.scratch) (op : Operation) :
    DraftsArePlain (perform s op).scratch := by
  rcases scratch_perform s op with hsame | ⟨x, -, hx⟩
  · rw [hsame]
    exact h
  · rw [hx]
    exact h.perform x

/-- Nothing is saved through a link if no draft is one at the start. -/
theorem not_savesThroughLink_of_mem {s : State} (h : DraftsArePlain s.scratch)
    {ops : List Operation} {x : State × Operation} (hx : x ∈ steps s ops) :
    ¬ SavesThroughLink x.1 x.2 := by
  obtain ⟨before, after, hsteps⟩ := List.append_of_mem hx
  have hplain : DraftsArePlain x.1.scratch :=
    holds_of_steps (P := fun s => DraftsArePlain s.scratch) hsteps h
      fun y _ hy => draftsArePlain_perform hy y.2
  obtain ⟨t, op⟩ := x
  cases op with
  | attach w context raw => exact hplain context.containerId
  | detach w context => exact not_false

theorem gone_of_detach {w : World} {context : Context} {s : State} {value : Bytes}
    (h : (Scratch.take w.pid s.scratch context.containerId w.disk).1 = .ok value) :
    Gone context.containerId (detach w context s).2 := by
  rw [Gone, scratch_detach, Scratch.perform]
  exact (Scratch.find?_recordName_take h).2.2

/-- Plugins are called for a record that was there, and is gone then. -/
theorem Deletes.record {id : String} {s : State} {op : Operation} (h : Deletes id s op) :
    ContainerId.isValid id = true ∧ ¬ Gone id s ∧ Gone id (perform s op) := by
  cases op with
  | attach w context raw => exact h.elim
  | detach w context =>
    obtain ⟨rfl, hcalls⟩ := h
    cases htake : (Scratch.take w.pid s.scratch context.containerId w.disk).1 with
    | error e => exact absurd (detach_of_take_error htake).2 hcalls
    | ok value =>
      obtain ⟨hid, hthere, -⟩ := Scratch.find?_recordName_take htake
      exact ⟨hid, hthere, gone_of_detach htake⟩

/-- Between two teardowns that call plugins for a container its record is saved, or something is
    saved through a link. -/
theorem exists_saves_of_deletes {id : String} {s : State} {ops : List Operation}
    {before between after : List (State × Operation)} {first second : State × Operation}
    (h : steps s ops = before ++ first :: (between ++ second :: after))
    (hfirst : Deletes id first.1 first.2) (hsecond : Deletes id second.1 second.2) :
    ∃ x ∈ between, Saves id x.1 x.2 ∨ SavesThroughLink x.1 x.2 := by
  by_contra hnone
  obtain ⟨hid, -, hgone⟩ := hfirst.record
  obtain ⟨later, hlater⟩ := exists_steps_of_eq_append h
  have hstays : Gone id second.1 := by
    apply holds_of_steps (P := Gone id) hlater.symm hgone
    intro x hx hgone
    have hunsaved : ¬ (Saves id x.1 x.2 ∨ SavesThroughLink x.1 x.2) := fun h => hnone ⟨x, hx, h⟩
    exact hgone.perform hid (not_or.1 hunsaved).1 (not_or.1 hunsaved).2
  exact hsecond.record.2.1 hstays

/-- **What tearing down does, and that it is done once.**  If the record cannot be taken, that is
    the error, and no plugin is called.  Otherwise it is gone before the first call, and stays so
    until it is saved again, whatever tearing down comes to.  The calls take a course through the
    entries that the record spells, from the first on, and its error is the error of the whole;
    a record that spells no list has no calls.  Tearing down succeeds just when the record spells a
    list, every entry has a call and every call succeeds.  In every run the record of a container
    is saved between two teardowns of it that call plugins; if it is the folder itself that cannot
    be brought to the disk then, `put` says that it failed.  Saving through a link could bring
    the record of another container back, but is never done if no draft is a link at the start. -/
theorem detach_trace (w : World) (context : Context) (s : State) :
    let id := context.containerId
    let taken := Scratch.take w.pid s.scratch id w.disk
    let done := detach w context s
    done.2.scratch = taken.2 ∧
    (∀ e, taken.1 = .error e → done.1 = .error e ∧ done.2.calls = s.calls) ∧
    (∀ value, taken.1 = .ok value →
      taken.2.find? (recordName id) = none ∧
      (∀ later, (∀ x ∈ steps done.2 later, ¬ Saves id x.1 x.2 ∧ ¬ SavesThroughLink x.1 x.2) →
        (run done.2 later).scratch.find? (recordName id) = none) ∧
      ∃ made, done.2.events = s.events ++ .take id :: made.map .call ∧
        match NetworkList.parse value with
        | .error e => made = [] ∧ done.1 = .error e
        | .ok list =>
          ∃ r, Course w.delegator.detach .del context 0 s.calls list.entries made r ∧
            done.1 = lift (r.map fun _ => ())) ∧
    (done.1 = .ok () ↔ ∃ value list calls answers, taken.1 = .ok value ∧
      NetworkList.parse value = .ok list ∧
      List.Forall₂ (IsCallFor .del context) list.entries calls ∧
      Answered w.delegator.detach s.calls calls answers) ∧
    (∀ (start : State) (ops : List Operation) (before between after : List (State × Operation))
      (first second : State × Operation),
      steps start ops = before ++ first :: (between ++ second :: after) →
      Deletes id first.1 first.2 → Deletes id second.1 second.2 →
      ∃ x ∈ between, Saves id x.1 x.2 ∨ SavesThroughLink x.1 x.2) ∧
    (∀ (start : State) (ops : List Operation), DraftsArePlain start.scratch →
      ∀ x ∈ steps start ops, ¬ SavesThroughLink x.1 x.2) ∧
    ∀ before w' context' raw, Saves id before (.attach w' context' raw) →
      w'.disk.syncing = none → ∃ value, (Scratch.put before.scratch id value w'.disk).1 = .ok () := by
  intro id taken done
  refine ⟨scratch_detach w context s, fun e he => detach_of_take_error he, ?_, detach_eq_ok_iff,
    ?_, fun start ops hplain x => not_savesThroughLink_of_mem hplain,
    fun before w' context' raw hsaves => hsaves.exists_put⟩
  · intro value hvalue
    obtain ⟨hid, -, hgone⟩ := Scratch.find?_recordName_take hvalue
    refine ⟨hgone, fun later hlater => ?_, detach_of_taken hvalue⟩
    exact holds_run (P := Gone id) (gone_of_detach hvalue) fun x hx hstill =>
      hstill.perform hid (hlater x hx).1 (hlater x hx).2
  · intro start ops before between after first second hsteps hfirst hsecond
    exact exists_saves_of_deletes hsteps hfirst hsecond

end NetDelegate.Engine
