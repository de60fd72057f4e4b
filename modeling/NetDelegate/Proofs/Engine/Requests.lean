/-
  NetDelegate/Proofs/Engine/Requests.lean
  =======================================
  **Which requests are made.**  A service sees the request of a draft if the draft can be made and
  the network reaches the service, and nothing that comes back has it sent again
  (`Draft.snd_send`).  A store is opened by one draft and gives a value by another, so at most these
  two are sent, and the second only after a success (`Store.exists_exchange`).  For the stores of
  this library both have the same header values, which the configuration alone decides
  (`Config.requestFor`).  Replies that send a client on to another address are not among those of a
  `Network`, so nothing is said about them.
-/
import Mathlib.Data.String.Basic
import NetDelegate.Proofs.Engine.Agreement
import NetDelegate.Proofs.Scratch.History
import NetDelegate.Proofs.Store.Container

namespace NetDelegate

/-! ### One draft -/

/-- Does the reply have the status of a success, whatever its body? -/
def Reply.isSuccess : Reply → Bool
  | answered status _ => Status.isSuccess status
  | _ => false

/-- A service sees the request of the draft. -/
def Draft.IsSent (net : Network) (log : List Request) (draft : Draft) : Prop :=
  draft.CanBeMade ∧ (net log draft.prepared.request).isReached = true

theorem Draft.snd_send (draft : Draft) (net : Network) (log : List Request) :
    (draft.IsSent net log ∧ (draft.send net log).2 = log ++ [draft.prepared.request]) ∨
      (¬draft.IsSent net log ∧ (draft.send net log).2 = log) := by
  by_cases hmade : draft.CanBeMade
  · rw [draft.send_of_canBeMade hmade]
    by_cases hreached : (net log draft.prepared.request).isReached = true
    · exact .inl ⟨⟨hmade, hreached⟩, if_pos hreached⟩
    · exact .inr ⟨fun h => hreached h.2, if_neg hreached⟩
  · obtain ⟨fault, hsend⟩ := Draft.exists_send_of_not_canBeMade hmade
    rw [hsend]
    exact .inr ⟨fun h => hmade h.1, rfl⟩

theorem Store.snd_probe (net : Network) (log : List Request) (config : Config) (draft : Draft) :
    (Store.probe config draft net log).2 = (draft.send net log).2 := by
  unfold Store.probe
  match draft.send net log with
  | (.error fault, after) => rfl
  | (.ok (status, body), after) =>
    dsimp only
    split <;> rfl

/-- The body of the answer to a probe does not count. -/
theorem Store.fst_probe_eq_ok_iff (net : Network) (log : List Request) (config : Config)
    (draft : Draft) :
    (Store.probe config draft net log).1 = .ok () ↔
      draft.IsSent net log ∧ (net log draft.prepared.request).isSuccess = true := by
  by_cases hmade : draft.CanBeMade
  · simp only [Store.probe, draft.send_of_canBeMade hmade, Draft.IsSent, hmade, true_and]
    cases net log draft.prepared.request with
    | answered status body =>
      dsimp only [Reply.outcome, Reply.isSuccess]
      split
      · next hsuccess => simp [hsuccess, Reply.isReached]
      · next hfailure => simp [hfailure]
    | _ => simp [Reply.outcome, Reply.isSuccess]
  · obtain ⟨fault, hsend⟩ := Draft.exists_send_of_not_canBeMade hmade
    simp [Store.probe, hsend, Draft.IsSent, hmade]

/-! ### A probe and a question -/

/-- What is sent where one request decides whether another is made: the first, once, if it can be
    made and reaches a service; and the second, once, if it can be made after an answer of success
    to the first, and reaches a service. -/
structure Exchange (net : Network) (earlier : List Request) (first second : Request)
    (canFirst canSecond : Prop) (sent : List Request) : Prop where
  inOrder : sent <+: [first, second]
  first_iff : 0 < sent.length ↔ canFirst ∧ (net earlier first).isReached = true
  second_iff : sent.length = 2 ↔
    0 < sent.length ∧ (net earlier first).isSuccess = true ∧ canSecond ∧
      (net (earlier ++ [first]) second).isReached = true

namespace Exchange

variable {net : Network} {earlier : List Request} {first second : Request}
  {canFirst canSecond : Prop}

theorem nothing (h : ¬(canFirst ∧ (net earlier first).isReached = true)) :
    Exchange net earlier first second canFirst canSecond [] where
  inOrder := List.nil_prefix
  first_iff := by simp only [List.length_nil, Nat.lt_irrefl, h]
  second_iff := by simp

theorem one (h : canFirst ∧ (net earlier first).isReached = true)
    (hsecond : ¬((net earlier first).isSuccess = true ∧ canSecond ∧
      (net (earlier ++ [first]) second).isReached = true)) :
    Exchange net earlier first second canFirst canSecond [first] where
  inOrder := ⟨[second], rfl⟩
  first_iff := by simp only [List.length_singleton, Nat.lt_add_one, h, and_self]
  second_iff := by
    constructor
    · intro hlength
      cases hlength
    · rintro ⟨-, hsent⟩
      exact absurd hsent hsecond

theorem both (h : canFirst ∧ (net earlier first).isReached = true)
    (hsuccess : (net earlier first).isSuccess = true)
    (hsecond : canSecond ∧ (net (earlier ++ [first]) second).isReached = true) :
    Exchange net earlier first second canFirst canSecond [first, second] where
  inOrder := List.prefix_refl _
  first_iff := ⟨fun _ => h, fun _ => Nat.zero_lt_two⟩
  second_iff := ⟨fun _ => ⟨Nat.zero_lt_two, hsuccess, hsecond⟩, fun _ => rfl⟩

theorem eq_first {sent : List Request}
    (h : Exchange net earlier first second canFirst canSecond sent)
    (hfirst : canFirst ∧ (net earlier first).isReached = true) (hsecond : ¬canSecond) :
    sent = [first] := by
  have hlength : 0 < sent.length := h.first_iff.2 hfirst
  have hne : sent.length ≠ 2 := fun htwo => hsecond (h.second_iff.1 htwo).2.2.1
  obtain ⟨rest, hrest⟩ := h.inOrder
  match sent, hrest with
  | [], _ => cases hlength
  | [only], hrest => rw [(List.cons.inj hrest).1]
  | [_, _], _ => exact absurd rfl hne
  | _ :: _ :: _ :: _, hrest => cases hrest

/-- Whether the second request can be made only matters where the first was. -/
theorem imp {canSecond' : Prop} {sent : List Request}
    (h : Exchange net earlier first second canFirst canSecond sent)
    (hsame : canFirst → (canSecond ↔ canSecond')) :
    Exchange net earlier first second canFirst canSecond' sent where
  inOrder := h.inOrder
  first_iff := h.first_iff
  second_iff := by
    rw [h.second_iff]
    refine and_congr_right fun hsent => ?_
    rw [hsame (h.first_iff.1 hsent).1]

end Exchange

/-- A store that is opened by a probe, and then asked by a draft. -/
theorem Store.exists_exchange {config : Config} {probe draft : Draft} {opening : Session Store}
    {store : Store} {key : String} {net : Network} {earlier : List Request}
    (hopen : opening net earlier = ((Store.probe config probe net earlier).1.map fun _ => store,
      (Store.probe config probe net earlier).2))
    (hget : ∀ log, (store.get key net log).2 = (draft.send net log).2) :
    ∃ sent, (Session.bind opening (fun opened => opened.get key) net earlier).2 = earlier ++ sent ∧
      Exchange net earlier probe.prepared.request draft.prepared.request probe.CanBeMade
        draft.CanBeMade sent := by
  rw [Session.snd_bind, hopen, Store.snd_probe]
  have hprobe := Store.fst_probe_eq_ok_iff net earlier config probe
  have hfirst := probe.snd_send net earlier
  cases hopened : (Store.probe config probe net earlier).1 with
  | error e =>
    change ∃ sent, (probe.send net earlier).2 = _ ∧ _
    rcases hfirst with ⟨hsent, hlog⟩ | ⟨hunsent, hlog⟩
    · refine ⟨_, hlog, .one hsent fun hsecond => ?_⟩
      rw [hprobe.2 ⟨hsent, hsecond.1⟩] at hopened
      cases hopened
    · exact ⟨[], by rw [hlog, List.append_nil], .nothing hunsent⟩
  | ok u =>
    obtain ⟨hsent, hsuccess⟩ := hprobe.1 hopened
    rcases hfirst with ⟨-, hlog⟩ | ⟨hunsent, -⟩
    · change ∃ sent, (store.get key net (probe.send net earlier).2).2 = _ ∧ _
      rw [hget, hlog]
      rcases draft.snd_send net (earlier ++ [probe.prepared.request]) with
        ⟨hsecond, hlog'⟩ | ⟨hunsent, hlog'⟩
      · refine ⟨_, ?_, .both hsent hsuccess hsecond⟩
        rw [hlog', List.append_assoc, List.singleton_append]
      · exact ⟨_, hlog', .one hsent fun hsecond => hunsent hsecond.2⟩
    · exact absurd hsent hunsent

/-! ### The requests of a configuration -/

/-- An address as it is handed on: its credentials go into a header, if they are text. -/
def Url.outgoing (u : Url) : Url :=
  if (Draft.credentials? u).isSome then u.withoutCredentials else u

theorem Draft.url_prepared (draft : Draft) : draft.prepared.url = draft.url.outgoing := by
  unfold prepared Url.outgoing
  cases credentials? draft.url with
  | none => rfl
  | some credentials => rfl

namespace Config

/-- The credentials that the options give to etcd, as a header value; a password that is not given
    is empty. -/
def optionCredentials (config : Config) : List Bytes :=
  if config.backend = Etcd.backend then
    ((config.option? "username").map fun username =>
      Draft.basic (utf8 username) (utf8 ((config.option? "password").getD ""))).toList
  else []

/-- The token that the options give to Consul. -/
def optionToken (config : Config) : List Bytes :=
  if config.backend = Consul.backend then ((config.option? "token").map utf8).toList else []

/-- The credentials in front of the host of the endpoint, as a header value. -/
def endpointCredentials (config : Config) : List Bytes :=
  ((Draft.credentials? config.endpoint).map fun c => Draft.basic c.1 c.2).toList

/-- The request for an address. -/
def requestFor (config : Config) (url : Url) : Request where
  url := url.asked
  authorization := config.endpointCredentials ++ config.optionCredentials
  token := config.optionToken

/-- The address can be asked. -/
def CanAsk (config : Config) (url : Url) : Prop :=
  (∀ token ∈ config.optionToken, ∀ b ∈ token, Draft.isHeaderByte b = true) ∧
    Draft.isSendable url.outgoing = true

/-- The addresses that are asked for a key, if the store is known: first whether there is a
    service, then the value. -/
def addresses? (config : Config) (key : String) : Option (Url × Url) :=
  if config.backend = Etcd.backend then
    some (Store.keyUrl config.endpoint ["version"] "", Etcd.keyUrl config key)
  else if config.backend = Consul.backend then
    some (Store.keyUrl config.endpoint ["v1", "status", "leader"] "", Consul.keyUrl config key)
  else none

end Config

/-- The draft asks the service of the endpoint, with the header values of the configuration. -/
structure Draft.IsFor (config : Config) (draft : Draft) : Prop where
  samePlace : draft.url.SamePlace config.endpoint
  authorization : draft.authorization = config.optionCredentials
  token : (draft.token.map utf8).toList = config.optionToken

theorem Etcd.isFor_draft {config : Config} (h : config.backend = Etcd.backend) {url : Url}
    (hplace : url.SamePlace config.endpoint) : (Etcd.draft config url).IsFor config where
  samePlace := hplace
  authorization := by
    rw [Config.optionCredentials, if_pos h, Etcd.draft]
    cases config.option? "username" with
    | none => rfl
    | some username => rfl
  token := by
    rw [Config.optionToken, if_neg (by rw [h]; decide)]
    rfl

theorem Consul.isFor_draft {config : Config} (h : config.backend = Consul.backend) {url : Url}
    (hplace : url.SamePlace config.endpoint) : (Consul.draft config url).IsFor config where
  samePlace := hplace
  authorization := by
    rw [Config.optionCredentials, if_neg (by rw [h]; decide)]
    rfl
  token := by
    rw [Config.optionToken, if_pos h]
    rfl

section
variable {config : Config} {draft : Draft}

theorem Url.SamePlace.credentials?_eq {u v : Url} (h : u.SamePlace v) :
    Draft.credentials? u = Draft.credentials? v := by
  rw [Draft.credentials?, Draft.credentials?, h.username, h.password]

theorem Url.host_outgoing (u : Url) : u.outgoing.host = u.host := by
  unfold Url.outgoing
  split <;> rfl

theorem Url.path_outgoing (u : Url) : u.outgoing.path = u.path := by
  unfold Url.outgoing
  split <;> rfl

theorem length_le_utf8ByteSize (s : String) : s.toList.length ≤ s.utf8ByteSize := by
  rw [← String.utf8Len_toList]
  induction s.toList with
  | nil => exact Nat.zero_le _
  | cons c cs ih =>
    rw [List.length_cons, String.utf8Len_cons]
    exact Nat.add_le_add ih c.utf8Size_pos

/-- An address is at least as long as the last segment of its path. -/
theorem Url.length_le_of_path_eq {u : Url} {front : List String} {segment : String}
    (h : u.path = front ++ [segment]) : segment.toList.length ≤ u.text.utf8ByteSize := by
  refine Nat.le_trans ?_ (length_le_utf8ByteSize u.text)
  have hsegment : segment.toList.length ≤ (Url.pathText [segment]).length := by
    simp [Url.pathText]
  rw [Url.text, String.toList_ofList, h, Url.pathText_append]
  simp only [List.length_append]
  omega

theorem Draft.IsFor.request_eq (h : draft.IsFor config) :
    draft.prepared.request = config.requestFor draft.url := by
  rw [draft.request_prepared, h.samePlace.credentials?_eq, h.authorization, h.token]
  rfl

theorem Draft.IsFor.canBeMade_iff (h : draft.IsFor config) :
    draft.CanBeMade ↔ config.CanAsk draft.url := by
  rw [Draft.CanBeMade, Config.CanAsk, draft.url_prepared, ← h.token]
  simp

/-- Where one address of a host can be asked, any other that is not too long can be. -/
theorem Config.CanAsk.iff_of_host_eq {asked url : Url} (h : config.CanAsk asked)
    (hhost : url.host = asked.host) :
    config.CanAsk url ↔ url.outgoing.text.utf8ByteSize ≤ Draft.maxAddressLength := by
  obtain ⟨htoken, hsendable⟩ := h
  rw [Draft.isSendable, Bool.and_eq_true, asked.host_outgoing, ← hhost] at hsendable
  rw [Config.CanAsk, Draft.isSendable, Bool.and_eq_true, decide_eq_true_iff, url.host_outgoing]
  constructor
  · rintro ⟨-, -, hlength⟩
    exact hlength
  · intro hlength
    exact ⟨htoken, hsendable.1, hlength⟩

/-- A store that is opened and asked with the header values of the configuration. -/
theorem Store.exists_exchange_of_isFor {probe : Draft} {store : Store} {key : String}
    {net : Network} (hprobe : probe.IsFor config) (hdraft : draft.IsFor config)
    (earlier : List Request)
    (hget : ∀ log, (store.get key net log).2 = (draft.send net log).2) :
    ∃ sent,
      (Session.bind (do Store.probe config probe; return store) (fun opened => opened.get key)
        net earlier).2 = earlier ++ sent ∧
      Exchange net earlier (config.requestFor probe.url) (config.requestFor draft.url)
        (config.CanAsk probe.url)
        (draft.url.outgoing.text.utf8ByteSize ≤ Draft.maxAddressLength) sent := by
  obtain ⟨sent, hlog, hsent⟩ :=
    Store.exists_exchange (Store.open_eq config probe store earlier) hget
  refine ⟨sent, hlog, ?_⟩
  rw [hprobe.request_eq, hdraft.request_eq, hprobe.canBeMade_iff, hdraft.canBeMade_iff] at hsent
  refine hsent.imp fun hasked => hasked.iff_of_host_eq ?_
  rw [hdraft.samePlace.host, hprobe.samePlace.host]

theorem Etcd.snd_get (config : Config) (key : String) (net : Network) (log : List Request) :
    (Etcd.get config key net log).2 =
      ((Etcd.draft config (Etcd.keyUrl config key)).send net log).2 := by
  rw [Etcd.get_eq]
  exact (Session.snd_bind_pure _ _ net log).trans (Store.snd_fetch _ _ net log)

theorem Consul.snd_get (config : Config) (key : String) (net : Network) (log : List Request) :
    (Consul.get config key net log).2 =
      ((Consul.draft config (Consul.keyUrl config key)).send net log).2 := by
  rw [Consul.get_eq]
  exact (Session.snd_bind_pure _ _ net log).trans (Store.snd_fetch _ _ net log)

end

namespace Engine

section
variable {w : World} {context : Context} {raw : Bytes} {s : State}

theorem requests_detach : (detach w context s).2.requests = s.requests := by
  unfold detach
  cases ContainerId.check context.containerId with
  | error e => rfl
  | ok u =>
    dsimp only
    rcases Scratch.take w.pid s.scratch context.containerId w.disk with ⟨taken, scratch⟩
    cases taken with
    | error e => rfl
    | ok value =>
      dsimp only
      cases NetworkList.parse value <;> rfl

theorem requests_attach :
    (attach w context raw s).2.requests =
      match prepare w context raw with
      | .error _ => s.requests
      | .ok config => (fetch w config context.containerId s.requests).2 := by
  unfold attach
  cases prepare w context raw with
  | error e => rfl
  | ok config =>
    dsimp only
    rcases fetch w config context.containerId s.requests with ⟨fetched, log⟩
    cases fetched with
    | error e => rfl
    | ok found =>
      dsimp only
      rcases Scratch.put s.scratch context.containerId found.1 w.disk with ⟨saved, scratch⟩
      cases saved <;> rfl

theorem log_fetch (config : Config) (id : String) (earlier : List Request) :
    (fetch w config id earlier).2 =
      (Session.bind (w.registry.connect config) (fun store => store.get (config.keyFor id))
        w.network earlier).2 := by
  simp only [fetch, bind]
  generalize Session.bind _ _ w.network earlier = fetched
  obtain ⟨r, log⟩ := fetched
  cases r <;> rfl

/-- The requests for the value of a container, if the store is known. -/
def Exchanged (w : World) (config : Config) (id : String) (earlier sent : List Request) : Prop :=
  match config.addresses? (config.keyFor id) with
  | none => sent = []
  | some (probe, value) =>
    Exchange w.network earlier (config.requestFor probe) (config.requestFor value)
      (config.CanAsk probe) (value.outgoing.text.utf8ByteSize ≤ Draft.maxAddressLength) sent

theorem exists_exchanged (hregistry : w.registry = Registry.builtin) (config : Config) (id : String)
    (earlier : List Request) :
    ∃ sent, (fetch w config id earlier).2 = earlier ++ sent ∧ Exchanged w config id earlier sent := by
  rw [log_fetch, hregistry, Registry.connect_builtin, Consul.connect_eq, Etcd.connect_eq]
  unfold Exchanged Config.addresses?
  by_cases hconsul : config.backend = Consul.backend
  · have hetcd : config.backend ≠ Etcd.backend := by
      rw [hconsul]
      decide
    have hplace : (Consul.keyUrl config (config.keyFor id)).SamePlace config.endpoint :=
      ⟨rfl, rfl, rfl, rfl, rfl⟩
    rw [if_pos hconsul, if_neg hetcd, if_pos hconsul]
    exact Store.exists_exchange_of_isFor
      (Consul.isFor_draft hconsul (Store.samePlace_keyUrl _ ["v1", "status", "leader"] ""))
      (Consul.isFor_draft hconsul hplace) earlier
      (Consul.snd_get config (config.keyFor id) w.network)
  · by_cases hetcd : config.backend = Etcd.backend
    · rw [if_neg hconsul, if_pos hetcd, if_pos hetcd]
      exact Store.exists_exchange_of_isFor
        (Etcd.isFor_draft hetcd (Store.samePlace_keyUrl _ ["version"] ""))
        (Etcd.isFor_draft hetcd (Store.samePlace_keyUrl _ ["v2", "keys"] _)) earlier
        (Etcd.snd_get config (config.keyFor id) w.network)
    · rw [if_neg hconsul, if_neg hetcd, if_neg hetcd, if_neg hconsul]
      exact ⟨[], (List.append_nil _).symm, rfl⟩

end

/-- **The requests of the engine.**  Setting up makes none if the id or the configuration is
    invalid or the store unknown, and otherwise at most two, each once: one that asks whether there
    is a service, and one for the value of the container.  The second is made just when the first
    had an answer of success, whatever its body, and the address of the value is not too long for
    a request.  Both have the same header values: the credentials in front of the host of the
    endpoint and, for etcd, those of the options; for Consul, the token of the options.  Tearing
    down makes no request. -/
theorem requests_of_engine (environment : Environment) (network : Network) (delegator : Delegator)
    (pid : Nat) (disk : Scratch.Disk) (context : Context) (raw : Bytes) (s : State) :
    let w : World := ⟨environment, Registry.builtin, network, delegator, pid, disk⟩
    (detach w context s).2.requests = s.requests ∧
    ∃ sent, (attach w context raw s).2.requests = s.requests ++ sent ∧
      match prepare w context raw with
      | .error _ => sent = []
      | .ok config => Exchanged w config context.containerId s.requests sent := by
  intro w
  refine ⟨requests_detach, ?_⟩
  rw [requests_attach]
  cases prepare w context raw with
  | error e => exact ⟨[], (List.append_nil _).symm, rfl⟩
  | ok config => exact exists_exchanged rfl config context.containerId s.requests

/-- A store that answers all requests is not asked for the value of an id that is too long for
    an address. -/
theorem exists_requests_of_long {id : String} (hvalid : ContainerId.isValid id = true)
    (hlong : Draft.maxAddressLength < id.toList.length) (body : Bytes) :
    let w := answering body
    let context : Context := ⟨id, "", "eth0", "", []⟩
    let raw := configText Etcd.backend
    ∃ config probe value, prepare w context raw = .ok config ∧
      config.addresses? (config.keyFor id) = some (probe, value) ∧
      w.network [] (config.requestFor probe) = .answered 200 (some body) ∧
      (attach w context raw ⟨.missing, [], []⟩).2.requests = [config.requestFor probe] := by
  intro w context raw
  obtain ⟨config, hload, hfound⟩ : ∃ config,
      Config.load (fun _ => none) (configText Etcd.backend) = .ok config ∧
      (config.backend, config.optionToken,
        Draft.isSendable (Store.keyUrl config.endpoint ["version"] "").outgoing) =
          (Etcd.backend, [], true) := Config.exists_load_of_map (by decide +kernel)
  obtain ⟨hbackend, htoken, hsendable⟩ : config.backend = Etcd.backend ∧ config.optionToken = [] ∧
      Draft.isSendable (Store.keyUrl config.endpoint ["version"] "").outgoing = true := by
    simpa only [Prod.mk.injEq] using hfound
  have hprepare : prepare w context raw = .ok config := by
    rw [prepare_of_ok (ContainerId.check_eq_ok_iff.2 hvalid)]
    exact hload
  have haddresses : config.addresses? (config.keyFor id) =
      some (Store.keyUrl config.endpoint ["version"] "",
        Etcd.keyUrl config (config.keyFor id)) := by
    rw [Config.addresses?, if_pos hbackend]
  have htoolong : ¬(Etcd.keyUrl config (config.keyFor id)).outgoing.text.utf8ByteSize ≤
      Draft.maxAddressLength := by
    obtain ⟨front, -, hpath⟩ := Store.exists_keyUrl_eq hload ["v2", "keys"]
    have hlength := Url.length_le_of_path_eq ((Url.path_outgoing _).trans (hpath id hvalid))
    exact Nat.not_le.2 (Nat.lt_of_lt_of_le hlong hlength)
  obtain ⟨sent, hlog, hsent⟩ := exists_exchanged (w := w) rfl config id []
  unfold Exchanged at hsent
  simp only [haddresses] at hsent
  have hasked : config.CanAsk (Store.keyUrl config.endpoint ["version"] "") := by
    refine ⟨?_, hsendable⟩
    rw [htoken]
    exact List.forall_mem_nil _
  refine ⟨config, _, _, hprepare, haddresses, rfl, ?_⟩
  rw [requests_attach, hprepare]
  change (fetch w config id []).2 = _
  rw [hlog, List.nil_append]
  exact hsent.eq_first ⟨hasked, rfl⟩ htoolong

/-- An id so long that no request can have the address of its value. -/
def longId : String := String.ofList (List.replicate 65536 'i')

/-- For such an id the value is not asked for, although the first request had an answer of
    success. -/
theorem requests_of_longId :
    let body := utf8 "\x7b\x7d"
    let w := answering body
    let context : Context := ⟨longId, "", "eth0", "", []⟩
    let raw := configText Etcd.backend
    ∃ config probe value, prepare w context raw = .ok config ∧
      config.addresses? (config.keyFor longId) = some (probe, value) ∧
      w.network [] (config.requestFor probe) = .answered 200 (some body) ∧
      (attach w context raw ⟨.missing, [], []⟩).2.requests = [config.requestFor probe] := by
  have hvalid : ContainerId.isValid longId = true := Scratch.isValid_repeated 65535
  have hlength : longId.toList.length = 65536 := by
    unfold longId
    rw [String.toList_ofList, List.length_replicate]
  exact exists_requests_of_long hvalid (by rw [hlength, Draft.maxAddressLength]; omega) _

end Engine

end NetDelegate
