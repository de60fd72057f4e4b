/-
  NetDelegate/Proofs/Engine/Separation.lean
  =========================================
  **Containers do not get in each other's way.**  What is done for one container comes to the same
  in a run with others and in a run without them (`run_restrict`), provided that a store and the
  plugins answer the same request in the same way whenever it is made (`World.IsSteady`).

  The proof compares two runs: their scratch folders agree on the container (`Scratch.Agree`).  An
  operation for another container in one of the runs keeps them agreeing (`agree_left`), and an
  operation for the container itself in both of them is answered alike and keeps them agreeing
  (`matches_both`).  Errors may differ, as those of the scratch folder do.
-/
import NetDelegate.Proofs.Engine.Detach
import NetDelegate.Proofs.Scratch.Agreement
import NetDelegate.Proofs.Store.Session

namespace NetDelegate

/-- What a world answers does not depend on what was done before. -/
structure World.IsSteady (w : World) : Prop where
  connect : Connector.IsSteady w.network w.registry.connect
  attach : ∀ call earlier earlier', w.delegator.attach earlier call =
    w.delegator.attach earlier' call
  detach : ∀ call earlier earlier', w.delegator.detach earlier call =
    w.delegator.detach earlier' call

namespace Engine

open Scratch (Agree Represents Records vacant recordName recordOf)

/-! ### What an operation shows -/

/-- The world in which an operation is done. -/
def Operation.world : Operation → World
  | .attach w _ _ => w
  | .detach w _ => w

/-- Whether an operation succeeds, and its result. -/
inductive Answer where
  | failed
  | attached (result : AddResult)
  | detached
  deriving DecidableEq

/-- What an operation comes to in a state. -/
def Operation.answer (s : State) : Operation → Answer
  | .attach w context raw =>
    match (Engine.attach w context raw s).1 with
    | .ok result => .attached result
    | .error _ => .failed
  | .detach w context =>
    match (Engine.detach w context s).1 with
    | .ok () => .detached
    | .error _ => .failed

/-- What an operation shows of itself: its answer, the calls that it makes, and the record that it
    leaves for its container. -/
structure Observation where
  answer : Answer
  calls : List Call
  record : Option Node

def observe (s : State) (op : Operation) : Observation where
  answer := op.answer s
  calls := (perform s op).calls.drop s.calls.length
  record := recordOf (perform s op).scratch op.containerId

/-- What the operations for a container show in a run, in order. -/
def observations (id : String) (s : State) (ops : List Operation) : List Observation :=
  ((steps s ops).filter fun x => x.2.containerId = id).map fun x => observe x.1 x.2

/-! ### Steady worlds -/

section
variable {w : World} {context : Context} {raw value : Bytes} {list : NetworkList}
  {s t : State}

/-- The list of a container is retrieved in the same way whatever requests were made before. -/
theorem Retrieval.of_isSteady (hw : w.IsSteady) {earlier log : List Request}
    {r : Except Failure (Bytes × NetworkList)} (h : Retrieval w context raw earlier r log)
    (earlier' : List Request) : ∃ log', Retrieval w context raw earlier' r log' := by
  have opened {config : Config} {store : Store} {connected : List Request}
      (hconnect : w.registry.connect config w.network earlier = (.ok store, connected)) :
      ∃ connected', w.registry.connect config w.network earlier' = (.ok store, connected') ∧
        ∀ key, Session.IsSteady w.network (store.get key) := by
    obtain ⟨hsteady, hstores⟩ := hw.connect config
    obtain ⟨connected', hconnect'⟩ := hsteady.exists_eq hconnect earlier'
    exact ⟨connected', hconnect', fun key => hstores _ _ key (congrArg Prod.fst hconnect)⟩
  cases h with
  | invalidId hid => exact ⟨_, .invalidId hid⟩
  | unloadable hid hload => exact ⟨_, .unloadable hid hload⟩
  | unconnected hid hload hconnect =>
    obtain ⟨log', hconnect'⟩ := (hw.connect _).1.exists_eq hconnect earlier'
    exact ⟨log', .unconnected hid hload hconnect'⟩
  | unread hid hload hconnect hget =>
    obtain ⟨connected', hconnect', hstore⟩ := opened hconnect
    obtain ⟨log', hget'⟩ := (hstore _).exists_eq hget connected'
    exact ⟨log', .unread hid hload hconnect' hget'⟩
  | malformed hid hload hconnect hget hparse =>
    obtain ⟨connected', hconnect', hstore⟩ := opened hconnect
    obtain ⟨log', hget'⟩ := (hstore _).exists_eq hget connected'
    exact ⟨log', .malformed hid hload hconnect' hget' hparse⟩
  | retrieved hid hload hconnect hget hparse =>
    obtain ⟨connected', hconnect', hstore⟩ := opened hconnect
    obtain ⟨log', hget'⟩ := (hstore _).exists_eq hget connected'
    exact ⟨log', .retrieved hid hload hconnect' hget' hparse⟩

/-- Entries are handled in the same way whatever was done before. -/
theorem exists_delegate_eq {α : Type} {handle : List Call → Call → Except Error α}
    (hhandle : ∀ call earlier earlier', handle earlier call = handle earlier' call)
    (command : Command) (context : Context) (entries : List NetworkEntry) (index : Nat) :
    ∃ (r : Except Error (List α)) (made : List Call), ∀ events,
      delegate handle command context index entries events = (r, events ++ made.map .call) := by
  induction entries generalizing index with
  | nil => exact ⟨.ok [], [], fun events => by rw [delegate, List.map_nil, List.append_nil]⟩
  | cons entry entries ih =>
    cases hcall : callFor command context index entry with
    | error e =>
      refine ⟨.error e, [], fun events => ?_⟩
      simp only [delegate, hcall, List.map_nil, List.append_nil]
    | ok call =>
      cases hanswer : handle [] call with
      | error e =>
        refine ⟨.error e, [call], fun events => ?_⟩
        have hanswer' := (hhandle call (Event.calls events) []).trans hanswer
        simp only [delegate, hcall, hanswer', List.map_cons, List.map_nil]
      | ok answer =>
        obtain ⟨r, made, hrest⟩ := ih (index + 1)
        refine ⟨r.map (answer :: ·), call :: made, fun events => ?_⟩
        have hanswer' := (hhandle call (Event.calls events) []).trans hanswer
        rw [delegate_cons_of_answer hcall hanswer', hrest, List.append_assoc]
        rfl

/-- The calls that are made after an act upon the record. -/
theorem drop_calls {s t : State} {act : Event} (hact : act.call? = none) (made : List Call)
    (h : t.events = s.events ++ act :: made.map .call) : t.calls.drop s.calls.length = made := by
  have hcalls : t.calls = s.calls ++ made := by
    rw [State.calls, h]
    exact calls_append_act hact s.events made
  rw [hcalls, List.drop_left]

/-- After the bytes are saved, setting up comes to the same, and makes the same calls. -/
theorem exists_attach_eq (hw : w.IsSteady) (context : Context) (raw value : Bytes)
    (list : NetworkList) :
    ∃ (outcome : Except Failure AddResult) (made : List Call), ∀ s log,
      Retrieval w context raw s.requests (.ok (value, list)) log →
      (Scratch.put s.scratch context.containerId value w.disk).1 = .ok () →
      attach w context raw s =
        (outcome, ⟨(Scratch.put s.scratch context.containerId value w.disk).2, log,
          s.events ++ .put context.containerId value :: made.map .call⟩) := by
  obtain ⟨r, made, hdelegate⟩ := exists_delegate_eq hw.attach .add context list.entries 0
  refine ⟨lift (r.bind firstResult), made, fun s log hretrieved hput => ?_⟩
  obtain ⟨config, hprepare, hfetch⟩ := hretrieved.exists_fetch
  have hsaved : Scratch.put s.scratch context.containerId value w.disk = (.ok (), _) :=
    Prod.ext hput rfl
  simp only [attach, hprepare, hfetch]
  rw [hsaved]
  simp only [hdelegate, List.append_assoc, List.singleton_append]

/-- After the record is taken, tearing down comes to the same, and makes the same calls. -/
theorem exists_detach_eq (hw : w.IsSteady) (context : Context) (value : Bytes) :
    ∃ (outcome : Except Failure Unit) (made : List Call), ∀ s,
      (Scratch.take w.pid s.scratch context.containerId w.disk).1 = .ok value →
      (detach w context s).1 = outcome ∧
        (detach w context s).2.events =
          s.events ++ .take context.containerId :: made.map .call := by
  cases hparse : NetworkList.parse value with
  | error e =>
    refine ⟨.error e, [], fun s htake => ?_⟩
    obtain ⟨made, hevents, hdone⟩ := detach_of_taken htake
    rw [hparse] at hdone
    obtain ⟨rfl, hdone⟩ := hdone
    exact ⟨hdone, hevents⟩
  | ok list =>
    obtain ⟨r, made, hdelegate⟩ := exists_delegate_eq hw.detach .del context list.entries 0
    refine ⟨lift (r.map fun _ => ()), made, fun s htake => ?_⟩
    have hid := ContainerId.check_eq_ok_iff.2 (Scratch.find?_recordName_take htake).1
    obtain ⟨scratch, htaken⟩ : ∃ scratch,
        Scratch.take w.pid s.scratch context.containerId w.disk = (.ok value, scratch) :=
      ⟨_, Prod.ext htake rfl⟩
    simp only [detach, hid, htaken, hparse, hdelegate, List.append_assoc, List.singleton_append,
      and_self]

end

/-! ### One operation in two runs -/

section
variable {id : String} {s t : State} {op : Operation}

/-- An operation for another container, in one of the runs. -/
theorem agree_left {q : Place} (h : Agree id s.scratch q) (hop : op.containerId ≠ id) :
    Agree id (perform s op).scratch q := by
  rcases scratch_perform s op with hsame | ⟨x, hx, hperformed⟩
  · rw [hsame]
    exact h
  · rw [hperformed]
    exact h.perform_left (hx ▸ hop)

/-- Two states show the same of an operation and agree on its container afterwards. -/
def Matches (op : Operation) (s t : State) : Prop :=
  op.answer s = op.answer t ∧
    (perform s op).calls.drop s.calls.length = (perform t op).calls.drop t.calls.length ∧
    Agree op.containerId (perform s op).scratch (perform t op).scratch

theorem matches_attach {w : World} {context : Context} {raw : Bytes} (hw : w.IsSteady)
    (h : Agree context.containerId s.scratch t.scratch) :
    Matches (.attach w context raw) s t := by
  obtain ⟨retrieved, log, hs⟩ := retrieval w context raw s.requests
  obtain ⟨log', ht⟩ := hs.of_isSteady hw t.requests
  simp only [Matches, Operation.answer, perform, Operation.containerId]
  cases retrieved with
  | error e =>
    rw [attach_of_error hs, attach_of_error ht]
    refine ⟨rfl, ?_, h⟩
    exact (List.drop_length (l := s.calls)).trans (List.drop_length (l := t.calls)).symm
  | ok found =>
    obtain ⟨value, list⟩ := found
    have hboth : Agree context.containerId
        (Scratch.put s.scratch context.containerId value w.disk).2
        (Scratch.put t.scratch context.containerId value w.disk).2 :=
      h.put_both value w.disk
    cases hput : (Scratch.put s.scratch context.containerId value w.disk).1 with
    | ok u =>
      have hput' := h.put_eq_ok_iff.1 hput
      obtain ⟨outcome, made, hattach⟩ := exists_attach_eq hw context raw value list
      rw [hattach s log hs hput, hattach t log' ht hput']
      refine ⟨rfl, ?_, hboth⟩
      rw [drop_calls (s := s) rfl made rfl, drop_calls (s := t) rfl made rfl]
    | error e =>
      cases hput' : (Scratch.put t.scratch context.containerId value w.disk).1 with
      | ok u =>
        rw [h.put_eq_ok_iff.2 hput'] at hput
        cases hput
      | error e' =>
        rw [attach_of_put_error hs (Prod.ext hput rfl), attach_of_put_error ht (Prod.ext hput' rfl)]
        refine ⟨rfl, ?_, hboth⟩
        rw [drop_calls (s := s) rfl [] rfl, drop_calls (s := t) rfl [] rfl]

theorem matches_detach {w : World} {context : Context} (hw : w.IsSteady)
    (h : Agree context.containerId s.scratch t.scratch) : Matches (.detach w context) s t := by
  simp only [Matches, Operation.answer, perform, Operation.containerId]
  have hboth : Agree context.containerId (detach w context s).2.scratch
      (detach w context t).2.scratch := by
    rw [scratch_detach, scratch_detach]
    exact h.take_both w.pid w.disk
  cases htake : (Scratch.take w.pid s.scratch context.containerId w.disk).1 with
  | ok value =>
    have htake' := h.take_eq_ok_iff.1 htake
    obtain ⟨outcome, made, hdetach⟩ := exists_detach_eq hw context value
    obtain ⟨hs, hsevents⟩ := hdetach s htake
    obtain ⟨ht, htevents⟩ := hdetach t htake'
    rw [hs, ht, drop_calls rfl made hsevents, drop_calls rfl made htevents]
    exact ⟨rfl, rfl, hboth⟩
  | error e =>
    cases htake' : (Scratch.take w.pid t.scratch context.containerId w.disk).1 with
    | ok value =>
      rw [h.take_eq_ok_iff.2 htake'] at htake
      cases htake
    | error e' =>
      obtain ⟨hs, hscalls⟩ := detach_of_take_error htake
      obtain ⟨ht, htcalls⟩ := detach_of_take_error htake'
      rw [hs, ht, hscalls, htcalls, List.drop_length, List.drop_length]
      exact ⟨rfl, rfl, hboth⟩

/-- An operation for the container itself, in both runs. -/
theorem matches_both (hw : op.world.IsSteady)
    (h : Agree op.containerId s.scratch t.scratch) : Matches op s t := by
  cases op with
  | attach w context raw => exact matches_attach hw h
  | detach w context => exact matches_detach hw h

theorem Matches.observe_eq (h : Matches op s t) : observe s op = observe t op := by
  obtain ⟨hanswer, hcalls, hagree⟩ := h
  rw [observe, observe, hanswer, hcalls, hagree.recordOf_eq]

end

/-! ### Two runs -/

/-- The operations for a container among others. -/
def own (id : String) (ops : List Operation) : List Operation :=
  ops.filter fun op => op.containerId = id

theorem observations_cons (id : String) (s : State) (op : Operation) (ops : List Operation) :
    observations id s (op :: ops) =
      if op.containerId = id then observe s op :: observations id (perform s op) ops
      else observations id (perform s op) ops := by
  by_cases hop : op.containerId = id
  · simp [observations, steps, hop]
  · simp [observations, steps, hop]

theorem observations_own {id : String} {s t : State} (h : Agree id s.scratch t.scratch)
    {ops : List Operation} (hsteady : ∀ op ∈ ops, op.world.IsSteady) :
    observations id s ops = observations id t (own id ops) ∧
      Agree id (run s ops).scratch (run t (own id ops)).scratch := by
  induction ops generalizing s t with
  | nil => exact ⟨rfl, h⟩
  | cons op ops ih =>
    have hrest : ∀ op ∈ ops, op.world.IsSteady :=
      fun other hother => hsteady other (List.mem_cons_of_mem op hother)
    by_cases hop : op.containerId = id
    · subst hop
      have hmatches := matches_both (hsteady op List.mem_cons_self) h
      have hown : own op.containerId (op :: ops) = op :: own op.containerId ops := by simp [own]
      obtain ⟨hobserved, hagree⟩ := ih hmatches.2.2 hrest
      rw [hown, observations_cons, observations_cons, if_pos rfl, if_pos rfl,
        hmatches.observe_eq, hobserved]
      exact ⟨rfl, hagree⟩
    · have hown : own id (op :: ops) = own id ops := by simp [own, hop]
      rw [hown, observations_cons, if_neg hop]
      exact ih (agree_left h hop) hrest

theorem agree_refl {s : State} (hs : ∃ reason, s.scratch = vacant reason) (id : String) :
    Agree id s.scratch s.scratch := by
  obtain ⟨reason, hs⟩ := hs
  rw [hs]
  exact Scratch.agree_vacant reason id

/-- Neighbouring operations for different containers come in the same order for each of them. -/
theorem own_swap {a b : Operation} (hne : a.containerId ≠ b.containerId) (id : String)
    (before after : List Operation) :
    own id (before ++ a :: b :: after) = own id (before ++ b :: a :: after) := by
  have hpair : own id (a :: b :: after) = own id (b :: a :: after) := by
    by_cases ha : a.containerId = id
    · have hb : ¬ b.containerId = id := fun hb => hne (ha.trans hb.symm)
      simp [own, ha, hb]
    · simp [own, List.filter_cons, ha]
  rw [own, List.filter_append, ← own, ← own, hpair, own, own, ← List.filter_append]
  rfl

/-- A world with the stores of this library, where every request is answered with a list of two
    entries and every call succeeds. -/
def answeringWorld : World where
  environment := fun _ => none
  registry := Registry.builtin
  network := fun _ _ => .answered 200 (some bridgeList)
  delegator := bridgeWorld.delegator
  pid := 4

theorem isSteady_answeringWorld : answeringWorld.IsSteady where
  connect := Registry.isSteady_builtin fun _ _ _ => rfl
  attach := fun _ _ _ => rfl
  detach := fun _ _ _ => rfl

/-- Two containers are set up and the first one is torn down. -/
def consulRun : List Operation :=
  let config := utf8 "\x7b\"storeBackend\":\"consul\",\"uri\":\"h\"\x7d"
  [.attach answeringWorld (bridgeContext "a") config,
    .attach answeringWorld (bridgeContext "b") config,
    .detach answeringWorld (bridgeContext "a")]

end Engine

end NetDelegate
