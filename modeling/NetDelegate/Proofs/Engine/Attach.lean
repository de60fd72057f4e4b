/-
  NetDelegate/Proofs/Engine/Attach.lean
  =====================================
  **What setting up does, and in which order.**  First the list of the container is retrieved,
  which leaves records and plugins alone (`Retrieval`); then it is saved, unchanged; only then are
  plugins called, in one of the courses that a list can take (`attach_of_put`).
-/
import NetDelegate.Proofs.Engine.Delegation

namespace NetDelegate.Engine

/-! ### Retrieving the list -/

/-- What retrieving the list of a container comes to, and the requests that are logged then: the
    first stage that fails gives the error. -/
inductive Retrieval (w : World) (context : Context) (raw : Bytes) (earlier : List Request) :
    Except Failure (Bytes × NetworkList) → List Request → Prop
  | invalidId {e : Failure} (hid : ContainerId.check context.containerId = .error e) :
      Retrieval w context raw earlier (.error e) earlier
  | unloadable {e : Failure} (hid : ContainerId.check context.containerId = .ok ())
      (hload : Config.load w.environment raw = .error e) :
      Retrieval w context raw earlier (.error e) earlier
  | unconnected {config : Config} {e : Error} {log : List Request}
      (hid : ContainerId.check context.containerId = .ok ())
      (hload : Config.load w.environment raw = .ok config)
      (hconnect : w.registry.connect config w.network earlier = (.error e, log)) :
      Retrieval w context raw earlier (failWith e) log
  | unread {config : Config} {store : Store} {connected : List Request} {e : Error}
      {log : List Request} (hid : ContainerId.check context.containerId = .ok ())
      (hload : Config.load w.environment raw = .ok config)
      (hconnect : w.registry.connect config w.network earlier = (.ok store, connected))
      (hget : store.get (config.keyFor context.containerId) w.network connected =
        (.error e, log)) :
      Retrieval w context raw earlier (failWith e) log
  | malformed {config : Config} {store : Store} {connected : List Request} {value : Bytes}
      {log : List Request} {e : Failure} (hid : ContainerId.check context.containerId = .ok ())
      (hload : Config.load w.environment raw = .ok config)
      (hconnect : w.registry.connect config w.network earlier = (.ok store, connected))
      (hget : store.get (config.keyFor context.containerId) w.network connected = (.ok value, log))
      (hparse : NetworkList.parse value = .error e) :
      Retrieval w context raw earlier (.error e) log
  | retrieved {config : Config} {store : Store} {connected : List Request} {value : Bytes}
      {log : List Request} {list : NetworkList}
      (hid : ContainerId.check context.containerId = .ok ())
      (hload : Config.load w.environment raw = .ok config)
      (hconnect : w.registry.connect config w.network earlier = (.ok store, connected))
      (hget : store.get (config.keyFor context.containerId) w.network connected = (.ok value, log))
      (hparse : NetworkList.parse value = .ok list) :
      Retrieval w context raw earlier (.ok (value, list)) log

section
variable {w : World} {context : Context} {raw : Bytes} {earlier log : List Request}
  {value : Bytes} {list : NetworkList}

theorem prepare_of_error {e : Failure} (h : ContainerId.check context.containerId = .error e) :
    prepare w context raw = .error e := by
  rw [prepare, h]
  rfl

theorem prepare_of_ok (h : ContainerId.check context.containerId = .ok ()) :
    prepare w context raw = Config.load w.environment raw := by
  rw [prepare, h]
  rfl

theorem fetch_of_connect_error {config : Config} {id : String} {e : Error}
    (h : w.registry.connect config w.network earlier = (.error e, log)) :
    fetch w config id earlier = (failWith e, log) := by
  simp only [fetch, bind, Session.bind, h]

theorem fetch_of_get_error {config : Config} {id : String} {store : Store}
    {connected : List Request} {e : Error}
    (hconnect : w.registry.connect config w.network earlier = (.ok store, connected))
    (hget : store.get (config.keyFor id) w.network connected = (.error e, log)) :
    fetch w config id earlier = (failWith e, log) := by
  simp only [fetch, bind, Session.bind, hconnect, hget]

theorem fetch_of_get_ok {config : Config} {id : String} {store : Store}
    {connected : List Request}
    (hconnect : w.registry.connect config w.network earlier = (.ok store, connected))
    (hget : store.get (config.keyFor id) w.network connected = (.ok value, log)) :
    fetch w config id earlier =
      ((NetworkList.parse value).map fun list => (value, list), log) := by
  simp only [fetch, bind, Session.bind, hconnect, hget]

theorem retrieval (w : World) (context : Context) (raw : Bytes) (earlier : List Request) :
    ∃ r log, Retrieval w context raw earlier r log := by
  cases hid : ContainerId.check context.containerId with
  | error e => exact ⟨_, _, .invalidId hid⟩
  | ok u =>
    cases hload : Config.load w.environment raw with
    | error e => exact ⟨_, _, .unloadable hid hload⟩
    | ok config =>
      match hconnect : w.registry.connect config w.network earlier with
      | (.error e, log) => exact ⟨_, _, .unconnected hid hload hconnect⟩
      | (.ok store, connected) =>
        match hget : store.get (config.keyFor context.containerId) w.network connected with
        | (.error e, log) => exact ⟨_, _, .unread hid hload hconnect hget⟩
        | (.ok value, log) =>
          cases hparse : NetworkList.parse value with
          | error e => exact ⟨_, _, .malformed hid hload hconnect hget hparse⟩
          | ok list => exact ⟨_, _, .retrieved hid hload hconnect hget hparse⟩

/-- What is retrieved is the list that the bytes spell. -/
theorem Retrieval.parse_eq (h : Retrieval w context raw earlier (.ok (value, list)) log) :
    NetworkList.parse value = .ok list := by
  cases h with
  | retrieved hid hload hconnect hget hparse => exact hparse

/-! ### Saving and delegating -/

variable {s : State}

theorem attach_of_error {e : Failure}
    (h : Retrieval w context raw s.requests (.error e) log) :
    attach w context raw s = (.error e, { s with requests := log }) := by
  cases h with
  | invalidId hid => simp only [attach, prepare_of_error hid]
  | unloadable hid hload => simp only [attach, prepare_of_ok hid, hload]
  | unconnected hid hload hconnect =>
    simp only [attach, prepare_of_ok hid, hload, fetch_of_connect_error hconnect, failWith]
  | unread hid hload hconnect hget =>
    simp only [attach, prepare_of_ok hid, hload, fetch_of_get_error hconnect hget, failWith]
  | malformed hid hload hconnect hget hparse =>
    simp only [attach, prepare_of_ok hid, hload, fetch_of_get_ok hconnect hget, hparse, Except.map]

theorem Retrieval.exists_fetch (h : Retrieval w context raw earlier (.ok (value, list)) log) :
    ∃ config, prepare w context raw = .ok config ∧
      fetch w config context.containerId earlier = (.ok (value, list), log) := by
  cases h with
  | @retrieved config _ _ _ _ _ hid hload hconnect hget hparse =>
    refine ⟨config, ?_, ?_⟩
    · rw [prepare_of_ok hid, hload]
    · simp only [fetch_of_get_ok hconnect hget, hparse, Except.map]

theorem attach_of_put_error {e : Failure} {scratch : Place}
    (h : Retrieval w context raw s.requests (.ok (value, list)) log)
    (hput : Scratch.put s.scratch context.containerId value w.disk = (.error e, scratch)) :
    attach w context raw s =
      (.error e, ⟨scratch, log, s.events ++ [.put context.containerId value]⟩) := by
  obtain ⟨config, hprepare, hfetch⟩ := h.exists_fetch
  simp only [attach, hprepare, hfetch, hput]

/-- After the bytes are saved, the entries are handled from the first on. -/
theorem attach_of_put {scratch : Place}
    (h : Retrieval w context raw s.requests (.ok (value, list)) log)
    (hput : Scratch.put s.scratch context.containerId value w.disk = (.ok (), scratch)) :
    ∃ made r, Course w.delegator.attach .add context 0 s.calls list.entries made r ∧
      (∀ answers, r = .ok answers ↔ ∃ calls,
        List.Forall₂ (IsCallFor .add context) list.entries calls ∧
          Answered w.delegator.attach s.calls calls answers) ∧
      attach w context raw s =
        (lift (r.bind firstResult),
          ⟨scratch, log, s.events ++ .put context.containerId value :: made.map .call⟩) := by
  obtain ⟨made, hevents, hcourse⟩ := course_after w.delegator.attach .add context list.entries
    s.events (.put context.containerId value) rfl
  refine ⟨made, _, hcourse, fun answers => ?_, ?_⟩
  · rw [delegate_eq_ok_iff, calls_append_of_no_call rfl]
    rfl
  · obtain ⟨config, hprepare, hfetch⟩ := h.exists_fetch
    simp only [attach, hprepare, hfetch, hput, hevents]

/-- Setting up adds calls for the container to those that were made before. -/
theorem exists_calls_attach (w : World) (context : Context) (raw : Bytes) (s : State) :
    ∃ made, (attach w context raw s).2.calls = s.calls ++ made ∧
      ∀ call ∈ made, call.command = .add ∧ call.context = context := by
  obtain ⟨retrieved, log, h⟩ := retrieval w context raw s.requests
  match retrieved with
  | .error e =>
    rw [attach_of_error h]
    exact ⟨[], (List.append_nil _).symm, List.forall_mem_nil _⟩
  | .ok (value, list) =>
    match hput : Scratch.put s.scratch context.containerId value w.disk with
    | (.error e, scratch) =>
      rw [attach_of_put_error h hput]
      refine ⟨[], ?_, List.forall_mem_nil _⟩
      rw [List.append_nil]
      exact calls_append_of_no_call rfl s.events
    | (.ok (), scratch) =>
      obtain ⟨made, r, hcourse, -, hattach⟩ := attach_of_put h hput
      refine ⟨made, ?_, hcourse.of_mem⟩
      rw [hattach]
      exact calls_append_act rfl s.events made

theorem lift_firstResult_eq_ok_iff {r : Except Error (List AddResult)} {a : AddResult} :
    lift (r.bind firstResult) = .ok a ↔ ∃ answers, r = .ok (a :: answers) := by
  constructor
  · intro h
    match r with
    | .error e => cases h
    | .ok [] => cases h
    | .ok (first :: rest) =>
      cases h
      exact ⟨rest, rfl⟩
  · rintro ⟨answers, rfl⟩
    rfl

end

/-- **What setting up does, and in which order.**  If the list cannot be retrieved, the first
    stage that fails gives the error, and records and plugins are left alone.  Otherwise the bytes
    that were retrieved are saved, before any call; if they cannot be saved, there is no call.
    Then the calls take a course through the entries, from the first on, and its error is the
    error of the whole.  There is a result just when every entry has a call and every call
    succeeds, and it is the answer to the first. -/
theorem attach_trace (w : World) (context : Context) (raw : Bytes) (s : State) :
    ∃ retrieved log, Retrieval w context raw s.requests retrieved log ∧
      match retrieved with
      | .error e => attach w context raw s = (.error e, { s with requests := log })
      | .ok (value, list) =>
        let saved := Scratch.put s.scratch context.containerId value w.disk
        let done := attach w context raw s
        done.2.scratch = saved.2 ∧ done.2.requests = log ∧
        ∃ made, done.2.events = s.events ++ .put context.containerId value :: made.map .call ∧
          match saved.1 with
          | .error e => made = [] ∧ done.1 = .error e
          | .ok () =>
            ∃ r, Course w.delegator.attach .add context 0 s.calls list.entries made r ∧
              (∀ e, r = .error e → done.1 = failWith e) ∧
              ∀ a, done.1 = .ok a ↔ ∃ calls answers,
                List.Forall₂ (IsCallFor .add context) list.entries calls ∧
                  Answered w.delegator.attach s.calls calls (a :: answers) := by
  obtain ⟨retrieved, log, h⟩ := retrieval w context raw s.requests
  refine ⟨retrieved, log, h, ?_⟩
  match retrieved with
  | .error e => exact attach_of_error h
  | .ok (value, list) =>
    match hput : Scratch.put s.scratch context.containerId value w.disk with
    | (.error e, scratch) =>
      dsimp only
      rw [attach_of_put_error h hput, hput]
      exact ⟨rfl, rfl, [], rfl, rfl, rfl⟩
    | (.ok (), scratch) =>
      obtain ⟨made, r, hcourse, hok, hattach⟩ := attach_of_put h hput
      dsimp only
      rw [hattach, hput]
      refine ⟨rfl, rfl, made, rfl, r, hcourse, ?_, ?_⟩
      · rintro e rfl
        rfl
      · intro a
        rw [lift_firstResult_eq_ok_iff]
        simp only [hok]
        exact exists_comm

end NetDelegate.Engine
