/-
  NetDelegate/Proofs/Engine/Agreement.lean
  ========================================
  **The store does not matter, the value does.**  A setup depends on the store by what was fetched
  (`comeToSame_attach`), and on what was done before by the calls among it.  So etcd and Consul are
  interchangeable: where the answer of the one says that the node has a value, and the answer of
  the other is this value, everything that follows is the same (`attach_etcd_consul`).
-/
import NetDelegate.Proofs.Config.Load
import NetDelegate.Proofs.Engine.Attach
import NetDelegate.Proofs.Scratch.Saving
import NetDelegate.Proofs.Store.Etcd
import NetDelegate.Proofs.Store.Session

namespace NetDelegate

/-! ### Getting the value -/

/-- Asking for a value comes to what the answer is classified as. -/
theorem Store.get_of_send {fail : String → Error} {draft : Draft}
    {classify : Nat × Bytes → Except Error Bytes} {net : Network} {log after : List Request}
    {status : Nat} {body : Bytes} (h : draft.send net log = (.ok (status, some body), after)) :
    (Store.fetch fail draft >>= fun answer => Session.pure (classify answer)) net log =
      (classify (status, body), after) := by
  change Session.bind (Store.fetch fail draft) _ net log = _
  simp only [Session.bind, Store.fetch, h, Session.pure]

namespace Engine

/-- The configuration names this store, the probe succeeds, and the request for the list of the
    container is answered with status 200 and this body. -/
def IsServed (w : World) (raw : Bytes) (id : String) (earlier : List Request) (backend : String)
    (draft : Config → Url → Draft) (probeUrl : Config → Url) (keyUrl : Config → String → Url)
    (body : Bytes) : Prop :=
  ∃ config connected log, Config.load w.environment raw = .ok config ∧ config.backend = backend ∧
    Store.probe config (draft config (probeUrl config)) w.network earlier = (.ok (), connected) ∧
    (draft config (keyUrl config (config.keyFor id))).send w.network connected =
      (.ok (200, some body), log)

/-- The etcd store of the configuration gives this answer for the container. -/
def IsServedByEtcd (w : World) (raw : Bytes) (id : String) (earlier : List Request)
    (body : Bytes) : Prop :=
  IsServed w raw id earlier Etcd.backend Etcd.draft
    (fun config => Store.keyUrl config.endpoint ["version"] "") Etcd.keyUrl body

/-- The Consul store of the configuration gives this answer for the container. -/
def IsServedByConsul (w : World) (raw : Bytes) (id : String) (earlier : List Request)
    (body : Bytes) : Prop :=
  IsServed w raw id earlier Consul.backend Consul.draft
    (fun config => Store.keyUrl config.endpoint ["v1", "status", "leader"] "") Consul.keyUrl body

/-- The configuration is loaded, and this is fetched from its store. -/
def Fetches (w : World) (context : Context) (raw : Bytes) (earlier : List Request)
    (r : Except Failure (Bytes × NetworkList)) : Prop :=
  ∃ config log, prepare w context raw = .ok config ∧
    fetch w config context.containerId earlier = (r, log)

section
variable {w : World} {context : Context} {raw : Bytes} {earlier : List Request}
  (hid : ContainerId.check context.containerId = .ok ()) (hregistry : w.registry = Registry.builtin)
include hid hregistry

theorem fetches_of_etcd {v : String} {body : Bytes} (hanswer : Etcd.IsAnswer v body)
    (h : IsServedByEtcd w raw context.containerId earlier body) :
    Fetches w context raw earlier
      ((NetworkList.parse (utf8 v)).map fun list => (utf8 v, list)) := by
  obtain ⟨config, connected, log, hload, hbackend, hprobe, hsend⟩ := h
  have hconnect : w.registry.connect config w.network earlier =
      (.ok ⟨Etcd.backend, Etcd.get config⟩, connected) := by
    have hother : ¬Etcd.backend = Consul.backend := by decide
    rw [hregistry, Registry.connect_builtin, hbackend, if_neg hother, if_pos rfl, Etcd.connect_eq,
      Store.open_eq, hprobe]
    rfl
  have hget : Etcd.get config (config.keyFor context.containerId) w.network connected =
      (.ok (utf8 v), log) := by
    rw [← Etcd.classify_of_isAnswer hanswer (config.keyFor context.containerId), Etcd.get_eq]
    exact Store.get_of_send hsend
  exact ⟨config, log, (prepare_of_ok hid).trans hload, fetch_of_get_ok hconnect hget⟩

theorem fetches_of_consul {value : Bytes}
    (h : IsServedByConsul w raw context.containerId earlier value) :
    Fetches w context raw earlier
      ((NetworkList.parse value).map fun list => (value, list)) := by
  obtain ⟨config, connected, log, hload, hbackend, hprobe, hsend⟩ := h
  have hconnect : w.registry.connect config w.network earlier =
      (.ok ⟨Consul.backend, Consul.get config⟩, connected) := by
    rw [hregistry, Registry.connect_builtin, if_pos hbackend, Consul.connect_eq,
      Store.open_eq, hprobe]
    rfl
  have hget : Consul.get config (config.keyFor context.containerId) w.network connected =
      (.ok value, log) := by
    rw [Consul.get_eq]
    exact Store.get_of_send hsend
  exact ⟨config, log, (prepare_of_ok hid).trans hload, fetch_of_get_ok hconnect hget⟩

end

/-! ### Runs that come to the same -/

/-- From these states, two runs come to the same, leave the same scratch folder, and do the same
    acts upon records and plugins. -/
structure ComeToSame {α : Type} (s s' : State) (run run' : Except Failure α × State) : Prop where
  result : run.1 = run'.1
  scratch : run.2.scratch = run'.2.scratch
  acts : ∃ acts, run.2.events = s.events ++ acts ∧ run'.2.events = s'.events ++ acts

/-- Delegating depends on the calls among the acts that were done before, and on no other. -/
theorem delegate_of_calls_eq {α : Type} (handle : List Call → Call → Except Error α)
    (command : Command) (context : Context) (entries : List NetworkEntry) (index : Nat)
    {events events' : List Event} (h : Event.calls events = Event.calls events') :
    ∃ r acts, delegate handle command context index entries events = (r, events ++ acts) ∧
      delegate handle command context index entries events' = (r, events' ++ acts) := by
  induction entries generalizing index events events' with
  | nil =>
    refine ⟨.ok [], [], ?_, ?_⟩
    · rw [List.append_nil]
      rfl
    · rw [List.append_nil]
      rfl
  | cons entry entries ih =>
    cases hcall : callFor command context index entry with
    | error e =>
      refine ⟨.error e, [], ?_, ?_⟩
      · simp only [delegate, hcall, List.append_nil]
      · simp only [delegate, hcall, List.append_nil]
    | ok call =>
      cases hanswer : handle (Event.calls events) call with
      | error e =>
        refine ⟨.error e, [.call call], ?_, ?_⟩
        · simp only [delegate, hcall, hanswer]
        · simp only [delegate, hcall, ← h, hanswer]
      | ok answer =>
        have hafter : Event.calls (events ++ [.call call]) =
            Event.calls (events' ++ [.call call]) := by
          rw [calls_append_call, calls_append_call, h]
        obtain ⟨r, acts, hrun, hrun'⟩ := ih (index + 1) hafter
        refine ⟨r.map (answer :: ·), .call call :: acts, ?_, ?_⟩
        · rw [delegate_cons_of_answer hcall hanswer, hrun, List.append_assoc]
          rfl
        · rw [h] at hanswer
          rw [delegate_cons_of_answer hcall hanswer, hrun', List.append_assoc]
          rfl

section
variable {w w' : World} {context : Context} {raw raw' : Bytes} {s s' : State}
  {r : Except Failure (Bytes × NetworkList)}

/-- What is fetched decides over the rest of a setup. -/
theorem comeToSame_attach (hdelegator : w.delegator = w'.delegator) (hdisk : w.disk = w'.disk)
    (hscratch : s.scratch = s'.scratch) (hcalls : s.calls = s'.calls)
    (hfetches : Fetches w context raw s.requests r)
    (hfetches' : Fetches w' context raw' s'.requests r) :
    ComeToSame s s' (attach w context raw s) (attach w' context raw' s') := by
  obtain ⟨config, log, hprepare, hfetch⟩ := hfetches
  obtain ⟨config', log', hprepare', hfetch'⟩ := hfetches'
  cases r with
  | error e =>
    simp only [attach, hprepare, hfetch, hprepare', hfetch']
    exact ⟨rfl, hscratch, [], (List.append_nil _).symm, (List.append_nil _).symm⟩
  | ok found =>
    obtain ⟨value, list⟩ := found
    rcases hput : Scratch.put s.scratch context.containerId value w.disk with ⟨saved, scratch⟩
    cases saved with
    | error e =>
      simp only [attach, hprepare, hfetch, hprepare', hfetch', ← hscratch, ← hdisk, hput]
      exact ⟨rfl, rfl, _, rfl, rfl⟩
    | ok u =>
      have hsaved : Event.calls (s.events ++ [.put context.containerId value]) =
          Event.calls (s'.events ++ [.put context.containerId value]) := by
        rw [calls_append_of_no_call rfl, calls_append_of_no_call rfl]
        exact hcalls
      obtain ⟨outcome, acts, hrun, hrun'⟩ :=
        delegate_of_calls_eq w.delegator.attach .add context list.entries 0 hsaved
      rw [hdelegator] at hrun'
      simp only [attach, hprepare, hfetch, hprepare', hfetch', ← hscratch, ← hdisk, hput, hrun,
        hrun']
      exact ⟨rfl, rfl, .put context.containerId value :: acts, List.append_assoc ..,
        List.append_assoc ..⟩

/-- What was fetched is saved. -/
theorem scratch_attach_of_fetches {value : Bytes} {list : NetworkList}
    (hfetches : Fetches w context raw s.requests (.ok (value, list))) :
    (attach w context raw s).2.scratch =
      (Scratch.put s.scratch context.containerId value w.disk).2 := by
  obtain ⟨config, log, hprepare, hfetch⟩ := hfetches
  rcases hput : Scratch.put s.scratch context.containerId value w.disk with ⟨saved, scratch⟩
  cases saved with
  | error e => simp only [attach, hprepare, hfetch, hput]
  | ok u => simp only [attach, hprepare, hfetch, hput]

/-- **The stores of this library are interchangeable.**  Let etcd give an answer that says that
    the node of the container has the value `v`, and let Consul give the bytes of `v`.  Then setups
    with the one and the other, from the same scratch folder and after the same calls, come to the
    same and do the same.  Where the value is a list, it is its bytes that are put; and if they can
    be saved, the record is a file that holds them, unless a link stood under the name of the
    draft. -/
theorem attach_etcd_consul {v : String} {body : Bytes}
    (hid : ContainerId.check context.containerId = .ok ())
    (hregistry : w.registry = Registry.builtin) (hregistry' : w'.registry = Registry.builtin)
    (hdelegator : w.delegator = w'.delegator) (hdisk : w.disk = w'.disk)
    (hscratch : s.scratch = s'.scratch) (hcalls : s.calls = s'.calls)
    (hetcd : IsServedByEtcd w raw context.containerId s.requests body)
    (hanswer : Etcd.IsAnswer v body)
    (hconsul : IsServedByConsul w' raw' context.containerId s'.requests (utf8 v)) :
    ComeToSame s s' (attach w context raw s) (attach w' context raw' s') ∧
      ∀ list, NetworkList.parse (utf8 v) = .ok list →
        let saved := Scratch.put s.scratch context.containerId (utf8 v) w.disk
        (attach w context raw s).2.scratch = saved.2 ∧
          (saved.1 = .ok () →
            ¬ Scratch.IsLink (s.scratch.find? (Scratch.draftName context.containerId)) →
              ∃ mode, saved.2.find? (Scratch.recordName context.containerId) =
                some (.file (utf8 v) mode)) := by
  have hfetches := fetches_of_etcd hid hregistry hanswer hetcd
  have hfetches' := fetches_of_consul hid hregistry' hconsul
  constructor
  · exact comeToSame_attach hdelegator hdisk hscratch hcalls hfetches hfetches'
  · intro list hlist saved
    rw [hlist] at hfetches
    refine ⟨scratch_attach_of_fetches hfetches, fun hput hplain => ?_⟩
    exact Scratch.exists_find?_put_of_ok hplain hput

end

/-- A world in which every request is answered with this body, and every plugin answers. -/
def answering (body : Bytes) : World where
  environment := fun _ => none
  registry := Registry.builtin
  network := fun _ _ => .answered 200 (some body)
  delegator := ⟨fun _ _ => .ok ⟨utf8 "\x7b\x7d"⟩, fun _ _ => .ok ()⟩
  pid := 4

/-- A configuration for a store. -/
def configText (backend : String) : Bytes :=
  utf8 ("\x7b\"storeBackend\":\"" ++ backend ++ "\",\"uri\":\"h\"\x7d")

theorem isServed_answering {raw body : Bytes} {id backend : String}
    {draft : Config → Url → Draft} {probeUrl : Config → Url} {keyUrl : Config → String → Url}
    (h : ((Config.load (fun _ => none) raw).toOption.map fun config =>
      let probed := Store.probe config (draft config (probeUrl config)) (answering body).network []
      let sent := (draft config (keyUrl config (config.keyFor id))).send (answering body).network
        probed.2
      decide (config.backend = backend ∧ probed.1.toOption = some () ∧
        sent.1.toOption = some (200, some body))) = some true) :
    IsServed (answering body) raw id [] backend draft probeUrl keyUrl body := by
  obtain ⟨config, hload, hfound⟩ := Config.exists_load_of_map h
  obtain ⟨hbackend, hprobe, hsend⟩ := of_decide_eq_true hfound
  exact ⟨config, _, _, hload, hbackend, Prod.ext (Json.toOption_eq_some_iff.1 hprobe) rfl,
    Prod.ext (Json.toOption_eq_some_iff.1 hsend) rfl⟩

/-- A list with quotes, which are escaped in the answer of etcd. -/
theorem attach_etcd_consul_list :
    let v := "[\x7b\"type\":\"b\"\x7d]"
    let body := Json.bytes (.object [("node", .object [("value", .string v)])])
    let context : Context := ⟨"a", "", "eth0", "", []⟩
    let start : State := ⟨.missing, [], []⟩
    let etcd := attach (answering body) context (configText Etcd.backend) start
    let consul := attach (answering (utf8 v)) context (configText Consul.backend) start
    ComeToSame start start etcd consul ∧
      ∃ mode, etcd.2.scratch.find? (Scratch.recordName "a") = some (.file (utf8 v) mode) := by
  intro v body context start etcd consul
  have hetcd : IsServedByEtcd (answering body) (configText Etcd.backend) "a" [] body :=
    isServed_answering (by decide +kernel)
  have hconsul : IsServedByConsul (answering (utf8 v)) (configText Consul.backend) "a" []
      (utf8 v) := isServed_answering (by decide +kernel)
  have hid : ContainerId.check context.containerId = .ok () := by decide
  have hboth : ComeToSame start start etcd consul ∧ ∀ list, NetworkList.parse (utf8 v) = .ok list →
      etcd.2.scratch = (Scratch.put start.scratch "a" (utf8 v)).2 ∧ _ :=
    attach_etcd_consul hid rfl rfl rfl rfl rfl rfl hetcd (Etcd.isAnswer_bytes v) hconsul
  refine ⟨hboth.1, ?_⟩
  have hparse : (NetworkList.parse (utf8 v)).toOption.isSome = true := by decide +kernel
  have hput : (Scratch.put start.scratch "a" (utf8 v)).1.toOption = some () := by decide +kernel
  obtain ⟨list, hlist⟩ := Option.isSome_iff_exists.1 hparse
  obtain ⟨hscratch, hfile⟩ := hboth.2 list (Json.toOption_eq_some_iff.1 hlist)
  rw [hscratch]
  exact hfile (Json.toOption_eq_some_iff.1 hput) Scratch.not_isLink_none

/-- With a member that says that the node is a directory, etcd gives no value; nor does it with
    such a member that is no truth value, with a second value, with a second node, or with a name
    that is no text. -/
theorem attach_etcd_consul_directory :
    let v := "[\x7b\"type\":\"b\"\x7d]"
    let context : Context := ⟨"a", "", "eth0", "", []⟩
    let start : State := ⟨.missing, [], []⟩
    let node (more : List (String × Json)) : String × Json :=
      ("node", .object (("value", .string v) :: more))
    let etcd (body : Bytes) : Except Failure AddResult :=
      (attach (answering body) context (configText Etcd.backend) start).1
    (attach (answering (utf8 v)) context (configText Consul.backend) start).1 =
        .ok ⟨utf8 "\x7b\x7d"⟩ ∧
      etcd (Json.bytes (.object [node []])) = .ok ⟨utf8 "\x7b\x7d"⟩ ∧
      etcd (Json.bytes (.object [node [("dir", .bool true)]])) =
        failWith (.storeFailed Etcd.backend "/a" "key is a directory") ∧
      (etcd (Json.bytes (.object [node [("dir", .null)]]))).isOk = false ∧
      (etcd (Json.bytes (.object [node [("value", .string v)]]))).isOk = false ∧
      (etcd (Json.bytes (.object [node [], node []]))).isOk = false ∧
      (etcd (utf8 "\x7b\"\\ud800\":0," ++ (Json.bytes (.object [node []])).tail)).isOk =
        false := by
  intro v context start node etcd
  refine ⟨?_, ?_, ?_, ?_, ?_, ?_, ?_⟩
  all_goals decide +kernel

end Engine

end NetDelegate
