/-
  NetDelegate/Proofs/Store/Session.lean
  =====================================
  **What sessions ask, and what their outcome depends on.**  A draft is either refused, whatever
  the network, or asked as one request and answered by the reply to it (`Draft.send_cases`); it is
  answered as a whole (`Draft.IsAnswered`) exactly if there is something to classify.  So getting a
  value makes one request at most, which is known beforehand (`Etcd.asks_get`,
  `Consul.asks_get`), and where the reply to a request does not depend on the requests before it,
  neither does the outcome of a session (`Session.IsSteady`); this holds of opening a connection to
  the stores of this library and of getting a value from them (`isSteady_builtin`).
-/
import NetDelegate.Store.Registry

namespace NetDelegate

/-! ### One request -/

/-- The outcome of a request to an address, by the reply. -/
def Reply.outcome (url : String) : Reply → Except SendFault (Nat × Option Bytes)
  | unreachable | broken => .error (.failed url)
  | delayed | silent => .error (.timedOut url)
  | answered status body => .ok (status, body)

/-- The request can be made: its header and its address are such as a request can have. -/
def Draft.CanBeMade (draft : Draft) : Prop :=
  (∀ token ∈ draft.token, ∀ b ∈ utf8 token, isHeaderByte b = true) ∧
    isSendable draft.prepared.url = true

theorem Draft.token_prepared (draft : Draft) : draft.prepared.token = draft.token := by
  unfold prepared
  cases credentials? draft.url with
  | none => rfl
  | some credentials => rfl

theorem Draft.badHeader_iff (draft : Draft) :
    (draft.prepared.token.map utf8).any (fun t => t.any fun b => !isHeaderByte b) = true ↔
      ¬∀ token ∈ draft.token, ∀ b ∈ utf8 token, isHeaderByte b = true := by
  rw [draft.token_prepared]
  cases draft.token with
  | none => simp
  | some token => simp

theorem Draft.send_of_canBeMade {draft : Draft} (h : draft.CanBeMade) (net : Network)
    (log : List Request) :
    draft.send net log =
      ((net log draft.prepared.request).outcome draft.prepared.url.text,
        if (net log draft.prepared.request).isReached = true then log ++ [draft.prepared.request]
        else log) := by
  have hheader := mt draft.badHeader_iff.1 (not_not_intro h.1)
  simp only [send, hheader, h.2, Bool.false_eq_true, if_false, Bool.not_true]
  cases net log draft.prepared.request with
  | unreachable => rfl
  | delayed => rfl
  | broken => rfl
  | silent => rfl
  | answered status body => rfl

theorem Draft.send_of_badHeader {draft : Draft}
    (h : ¬∀ token ∈ draft.token, ∀ b ∈ utf8 token, isHeaderByte b = true) (net : Network)
    (log : List Request) : draft.send net log = (.error .badHeader, log) := by
  simp only [send, draft.badHeader_iff.2 h, if_true]

theorem Draft.send_of_badAddress {draft : Draft}
    (hheader : ∀ token ∈ draft.token, ∀ b ∈ utf8 token, isHeaderByte b = true)
    (haddress : ¬isSendable draft.prepared.url = true) (net : Network) (log : List Request) :
    draft.send net log = (.error (.badAddress draft.prepared.url.text), log) := by
  have hlegal := mt draft.badHeader_iff.1 (not_not_intro hheader)
  simp only [send, hlegal, Bool.eq_false_iff.2 haddress, Bool.not_false, if_true,
    Bool.false_eq_true, if_false]

theorem Draft.exists_send_of_not_canBeMade {draft : Draft} (h : ¬draft.CanBeMade) :
    ∃ fault, ∀ net log, draft.send net log = (.error fault, log) := by
  by_cases hheader : ∀ token ∈ draft.token, ∀ b ∈ utf8 token, isHeaderByte b = true
  · exact ⟨_, Draft.send_of_badAddress hheader fun hsendable => h ⟨hheader, hsendable⟩⟩
  · exact ⟨_, Draft.send_of_badHeader hheader⟩

/-- The request is made, and its answer has this status and this body, which arrived whole. -/
def Draft.IsAnswered (draft : Draft) (net : Network) (log : List Request) (status : Nat)
    (body : Bytes) : Prop :=
  draft.CanBeMade ∧ net log draft.prepared.request = .answered status (some body)

theorem Reply.outcome_eq_ok_iff {url : String} {reply : Reply} {status : Nat}
    {body : Option Bytes} :
    reply.outcome url = .ok (status, body) ↔ reply = .answered status body := by
  cases reply with
  | unreachable => exact iff_of_false nofun nofun
  | delayed => exact iff_of_false nofun nofun
  | broken => exact iff_of_false nofun nofun
  | silent => exact iff_of_false nofun nofun
  | answered s b => simp [outcome]

theorem Draft.isAnswered_iff {draft : Draft} {net : Network} {log : List Request} {status : Nat}
    {body : Bytes} :
    draft.IsAnswered net log status body ↔ (draft.send net log).1 = .ok (status, some body) := by
  by_cases hmade : draft.CanBeMade
  · rw [Draft.send_of_canBeMade hmade, Reply.outcome_eq_ok_iff]
    exact and_iff_right hmade
  · obtain ⟨fault, hfault⟩ := Draft.exists_send_of_not_canBeMade hmade
    rw [hfault]
    exact iff_of_false (fun h => hmade h.1) nofun

/-- A draft is refused whatever the network, or there is one request for it, and its outcome
    depends on the reply alone. -/
theorem Draft.send_cases (draft : Draft) :
    (∃ fault, ∀ net log, draft.send net log = (.error fault, log)) ∨
      ∃ outcome : Reply → Except SendFault (Nat × Option Bytes), ∀ net log, ∃ log',
        draft.send net log = (outcome (net log draft.prepared.request), log') ∧
          (log' = log ∨ log' = log ++ [draft.prepared.request]) := by
  by_cases hmade : draft.CanBeMade
  · refine .inr ⟨Reply.outcome draft.prepared.url.text, fun net log => ?_⟩
    refine ⟨_, draft.send_of_canBeMade hmade net log, ?_⟩
    split
    · exact .inr rfl
    · exact .inl rfl
  · exact .inl (Draft.exists_send_of_not_canBeMade hmade)

/-- The request of a draft: the credentials of its address are in the first header value. -/
theorem Draft.request_prepared (draft : Draft) :
    draft.prepared.request =
      { url := draft.url.withoutCredentials.withoutFragment
        authorization :=
          ((credentials? draft.url).map fun c => basic c.1 c.2).toList ++ draft.authorization
        token := (draft.token.map utf8).toList } := by
  unfold prepared
  cases credentials? draft.url with
  | none => rfl
  | some credentials => rfl

/-- The session makes the request and no other, or none at all, whatever the network. -/
def Session.Asks {α : Type} (session : Session α) (request : Request) : Prop :=
  ∀ net log, (session net log).2 = log ∨ (session net log).2 = log ++ [request]

theorem Store.snd_fetch (fail : String → Error) (draft : Draft) (net : Network)
    (log : List Request) : (Store.fetch fail draft net log).2 = (draft.send net log).2 := by
  unfold Store.fetch
  match draft.send net log with
  | (.error fault, after) => rfl
  | (.ok (_, none), after) => rfl
  | (.ok (status, some body), after) => rfl

/-- What is fetched is a whole answer; without one, there is an error that says what happened. -/
theorem Store.fetch_cases (fail : String → Error) (draft : Draft) (net : Network)
    (log : List Request) :
    (∃ status body, draft.IsAnswered net log status body ∧
        (Store.fetch fail draft net log).1 = .ok (status, body)) ∨
      (∀ status body, ¬draft.IsAnswered net log status body) ∧
        ((∃ fault : SendFault, (Store.fetch fail draft net log).1 = .error (fail fault.text)) ∨
          (Store.fetch fail draft net log).1 = .error (fail bodyFault)) := by
  simp only [Draft.isAnswered_iff]
  unfold Store.fetch
  match draft.send net log with
  | (.error fault, after) => exact .inr ⟨nofun, .inl ⟨fault, rfl⟩⟩
  | (.ok (status, none), after) => exact .inr ⟨nofun, .inr rfl⟩
  | (.ok (status, some body), after) => exact .inl ⟨status, body, rfl, rfl⟩

theorem Store.asks_fetch (fail : String → Error) (draft : Draft) :
    (Store.fetch fail draft).Asks draft.prepared.request := by
  intro net log
  rw [Store.snd_fetch]
  rcases draft.send_cases with ⟨fault, hfault⟩ | ⟨outcome, houtcome⟩
  · exact .inl (by rw [hfault])
  · obtain ⟨after, hsend, hafter⟩ := houtcome net log
    rw [hsend]
    exact hafter

theorem Session.snd_bind {α β : Type} (session : Session α) (next : α → Session β)
    (net : Network) (log : List Request) :
    (Session.bind session next net log).2 =
      match session net log with
      | (.ok v, after) => (next v net after).2
      | (.error _, after) => after := by
  unfold Session.bind
  generalize session net log = first
  obtain ⟨r, after⟩ := first
  cases r <;> rfl

theorem Session.snd_bind_pure {α β : Type} (session : Session α) (next : α → Except Error β)
    (net : Network) (log : List Request) :
    ((session >>= fun v => Session.pure (next v) : Session β) net log).2 =
      (session net log).2 := by
  change (Session.bind session _ net log).2 = _
  rw [Session.snd_bind]
  generalize session net log = first
  obtain ⟨r, after⟩ := first
  cases r <;> rfl

theorem Session.fst_bind_pure {α β : Type} (session : Session α) (next : α → Except Error β)
    (net : Network) (log : List Request) :
    ((session >>= fun v => Session.pure (next v) : Session β) net log).1 =
      (session net log).1 >>= next := by
  change (Session.bind session _ net log).1 = _
  unfold Session.bind
  generalize session net log = first
  obtain ⟨r, after⟩ := first
  cases r <;> rfl

theorem Session.Asks.bind_pure {α β : Type} {session : Session α} {request : Request}
    (h : session.Asks request) (next : α → Except Error β) :
    Session.Asks (session >>= fun v => Session.pure (next v)) request := by
  intro net log
  rw [Session.snd_bind_pure]
  exact h net log

/-- Getting a value comes to what a whole answer is classified as. -/
theorem Store.get_cases (fail : String → Error) (draft : Draft)
    (classify : Nat × Bytes → Except Error Bytes) (net : Network) (log : List Request) :
    let got := ((Store.fetch fail draft >>= fun answer =>
      Session.pure (classify answer) : Session Bytes) net log).1
    (∃ status body, draft.IsAnswered net log status body ∧ got = classify (status, body)) ∨
      (∀ status body, ¬draft.IsAnswered net log status body) ∧
        ((∃ fault : SendFault, got = .error (fail fault.text)) ∨ got = .error (fail bodyFault)) := by
  intro got
  have hgot : got = (Store.fetch fail draft net log).1 >>= classify := Session.fst_bind_pure ..
  rcases Store.fetch_cases fail draft net log with
    ⟨status, body, hanswer, hfetch⟩ | ⟨hno, ⟨fault, hfetch⟩ | hfetch⟩
  · rw [hfetch] at hgot
    exact .inl ⟨status, body, hanswer, hgot⟩
  · rw [hfetch] at hgot
    exact .inr ⟨hno, .inl ⟨fault, hgot⟩⟩
  · rw [hfetch] at hgot
    exact .inr ⟨hno, .inr hgot⟩

theorem Etcd.asks_get (config : Config) (key : String) :
    (Etcd.get config key).Asks (Etcd.draft config (Etcd.keyUrl config key)).prepared.request := by
  rw [Etcd.get_eq]
  exact (Store.asks_fetch _ _).bind_pure fun answer => Etcd.classify key answer.1 answer.2

theorem Consul.asks_get (config : Config) (key : String) :
    (Consul.get config key).Asks
      (Consul.draft config (Consul.keyUrl config key)).prepared.request := by
  rw [Consul.get_eq]
  exact (Store.asks_fetch _ _).bind_pure fun answer => Consul.classify key answer.1 answer.2

/-! ### Outcomes that do not depend on earlier requests -/

/-- What a session comes to does not depend on the requests that were made before. -/
def Session.IsSteady {α : Type} (net : Network) (session : Session α) : Prop :=
  ∀ log log', (session net log).1 = (session net log').1

/-- The reply to a request does not depend on the requests that were made before. -/
def Network.IsSteady (net : Network) : Prop :=
  ∀ request log log', net log request = net log' request

section
variable {net : Network} {α β : Type}

theorem Session.IsSteady.exists_eq {session : Session α} (h : Session.IsSteady net session)
    {log after : List Request} {r : Except Error α} (hrun : session net log = (r, after))
    (log' : List Request) : ∃ after', session net log' = (r, after') := by
  have hsame := h log' log
  rw [hrun] at hsame
  exact ⟨(session net log').2, Prod.ext hsame rfl⟩

theorem Session.isSteady_pure (r : Except Error α) : Session.IsSteady net (Session.pure r) :=
  fun _ _ => rfl

theorem Session.IsSteady.bind {session : Session α} {next : α → Session β}
    (h : Session.IsSteady net session) (hnext : ∀ v, Session.IsSteady net (next v)) :
    Session.IsSteady net (session >>= next) := by
  intro log log'
  have hfirst := h log log'
  change (Session.bind session next net log).1 = (Session.bind session next net log').1
  unfold Session.bind
  generalize session net log = first at hfirst
  generalize session net log' = first' at hfirst
  obtain ⟨r, after⟩ := first
  obtain ⟨r', after'⟩ := first'
  obtain rfl : r = r' := hfirst
  match r with
  | .error e => rfl
  | .ok v => exact hnext v after after'

theorem Draft.fst_send (hnet : Network.IsSteady net) (draft : Draft) (log log' : List Request) :
    (draft.send net log).1 = (draft.send net log').1 := by
  rcases draft.send_cases with ⟨fault, hfault⟩ | ⟨outcome, houtcome⟩
  · rw [hfault, hfault]
  · obtain ⟨after, hsend, -⟩ := houtcome net log
    obtain ⟨after', hsend', -⟩ := houtcome net log'
    rw [hsend, hsend', hnet _ log log']

theorem Store.isSteady_probe (hnet : Network.IsSteady net) (config : Config) (draft : Draft) :
    Session.IsSteady net (Store.probe config draft) := by
  intro log log'
  have hsend := draft.fst_send hnet log log'
  unfold Store.probe
  generalize draft.send net log = sent at hsend
  generalize draft.send net log' = sent' at hsend
  obtain ⟨r, after⟩ := sent
  obtain ⟨r', after'⟩ := sent'
  obtain rfl : r = r' := hsend
  match r with
  | .error fault => rfl
  | .ok (status, body) =>
    dsimp only
    split <;> rfl

theorem Store.isSteady_fetch (hnet : Network.IsSteady net) (fail : String → Error)
    (draft : Draft) : Session.IsSteady net (Store.fetch fail draft) := by
  intro log log'
  have hsend := draft.fst_send hnet log log'
  unfold Store.fetch
  generalize draft.send net log = sent at hsend
  generalize draft.send net log' = sent' at hsend
  obtain ⟨r, after⟩ := sent
  obtain ⟨r', after'⟩ := sent'
  obtain rfl : r = r' := hsend
  match r with
  | .error fault => rfl
  | .ok (_, none) => rfl
  | .ok (status, some body) => rfl

/-! ### The stores of this library -/

theorem Registry.connect_withBackend (registry : Registry) (tag : String) (connector : Connector)
    (config : Config) :
    (registry.withBackend tag connector).connect config =
      if config.backend = lowercase tag then connector config else registry.connect config := by
  unfold Registry.connect Registry.withBackend
  simp only [NameMap.get?_insert]
  by_cases hbackend : config.backend = lowercase tag
  · simp only [hbackend, if_true]
  · simp only [hbackend, if_false]

theorem Registry.connect_builtin (config : Config) :
    Registry.builtin.connect config =
      if config.backend = Consul.backend then Consul.connect config
      else if config.backend = Etcd.backend then Etcd.connect config
      else Session.fail (.unsupportedBackend config.backend) := by
  have hconsul : lowercase Consul.backend = Consul.backend := by decide +kernel
  have hetcd : lowercase Etcd.backend = Etcd.backend := by decide +kernel
  rw [Registry.builtin, Registry.connect_withBackend, Registry.connect_withBackend, hconsul, hetcd]
  rfl

/-- A connection is opened, and values are got from it, whatever was asked before. -/
def Connector.IsSteady (net : Network) (connector : Connector) : Prop :=
  ∀ config, Session.IsSteady net (connector config) ∧
    ∀ log store key, (connector config net log).1 = .ok store → Session.IsSteady net (store.get key)

/-- A store that is opened by a probe: the probe alone decides whether it is. -/
theorem Store.open_eq (config : Config) (draft : Draft) (store : Store) (log : List Request) :
    (do Store.probe config draft; return store : Session Store) net log =
      ((Store.probe config draft net log).1.map fun _ => store,
        (Store.probe config draft net log).2) := by
  change Session.bind (Store.probe config draft) _ net log = _
  unfold Session.bind
  generalize Store.probe config draft net log = probed
  obtain ⟨r, after⟩ := probed
  cases r with
  | error e => rfl
  | ok u => rfl

theorem Store.eq_of_open {config : Config} {draft : Draft} {store opened : Store}
    {log : List Request}
    (h : ((do Store.probe config draft; return store : Session Store) net log).1 = .ok opened) :
    opened = store := by
  rw [Store.open_eq] at h
  cases hprobe : (Store.probe config draft net log).1 with
  | error e =>
    rw [hprobe] at h
    cases h
  | ok u =>
    rw [hprobe] at h
    cases h
    rfl

theorem Store.probe_of_open_error {config : Config} {draft : Draft} {store : Store}
    {log : List Request} {e : Error}
    (h : ((do Store.probe config draft; return store : Session Store) net log).1 = .error e) :
    (Store.probe config draft net log).1 = .error e := by
  rw [Store.open_eq] at h
  cases hprobe : (Store.probe config draft net log).1 with
  | error fault =>
    rw [hprobe] at h
    cases h
    rfl
  | ok u =>
    rw [hprobe] at h
    cases h

theorem Connector.isSteady_of_probe (hnet : Network.IsSteady net) (probeDraft : Config → Draft)
    (store : Config → Store)
    (hget : ∀ config key, Session.IsSteady net ((store config).get key)) :
    Connector.IsSteady net fun config => do
      Store.probe config (probeDraft config)
      return store config := by
  intro config
  refine ⟨(Store.isSteady_probe hnet _ _).bind fun _ => Session.isSteady_pure _, ?_⟩
  intro log opened key hopened
  rw [Store.eq_of_open hopened]
  exact hget config key

theorem Etcd.isSteady_connect (hnet : Network.IsSteady net) :
    Connector.IsSteady net Etcd.connect := by
  rw [funext Etcd.connect_eq]
  apply Connector.isSteady_of_probe hnet _ fun config => ⟨Etcd.backend, Etcd.get config⟩
  intro config key
  change Session.IsSteady net (Etcd.get config key)
  rw [Etcd.get_eq]
  exact (Store.isSteady_fetch hnet _ _).bind fun _ => Session.isSteady_pure _

theorem Consul.isSteady_connect (hnet : Network.IsSteady net) :
    Connector.IsSteady net Consul.connect := by
  rw [funext Consul.connect_eq]
  apply Connector.isSteady_of_probe hnet _ fun config => ⟨Consul.backend, Consul.get config⟩
  intro config key
  change Session.IsSteady net (Consul.get config key)
  rw [Consul.get_eq]
  exact (Store.isSteady_fetch hnet _ _).bind fun _ => Session.isSteady_pure _

theorem Registry.isSteady_empty : Connector.IsSteady net Registry.empty.connect := by
  intro config
  refine ⟨Session.isSteady_pure _, fun log store key h => ?_⟩
  cases h

theorem Registry.isSteady_withBackend {registry : Registry} {tag : String} {connector : Connector}
    (h : Connector.IsSteady net registry.connect) (hnew : Connector.IsSteady net connector) :
    Connector.IsSteady net (registry.withBackend tag connector).connect := by
  intro config
  rw [Registry.connect_withBackend]
  split
  · exact hnew config
  · exact h config

/-- The store that is opened is the one that the configuration names. -/
theorem Registry.store_of_connect_builtin {config : Config} {log : List Request} {store : Store}
    (h : (Registry.builtin.connect config net log).1 = .ok store) :
    (config.backend = Consul.backend ∧ store = ⟨Consul.backend, Consul.get config⟩) ∨
      (config.backend = Etcd.backend ∧ store = ⟨Etcd.backend, Etcd.get config⟩) := by
  rw [Registry.connect_builtin, Consul.connect_eq, Etcd.connect_eq] at h
  split at h
  · next hbackend => exact .inl ⟨hbackend, Store.eq_of_open h⟩
  · split at h
    · next hbackend => exact .inr ⟨hbackend, Store.eq_of_open h⟩
    · cases h

theorem Registry.isSteady_builtin (hnet : Network.IsSteady net) :
    Connector.IsSteady net Registry.builtin.connect :=
  Registry.isSteady_withBackend
    (Registry.isSteady_withBackend Registry.isSteady_empty (Etcd.isSteady_connect hnet))
    (Consul.isSteady_connect hnet)

end

end NetDelegate
