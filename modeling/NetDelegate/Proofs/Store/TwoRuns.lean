/-
  NetDelegate/Proofs/Store/TwoRuns.lean
  =====================================
  **Two runs of a session, side by side.**  Sessions run in `Parallel` if they come to results that
  correspond and make requests that correspond, in the same order; so they do step by step as long
  as the networks answer alike (`Network.AnswersAlike`).  A draft counts by the address that is
  handed on and by whether its token is fit for a header (`Draft.Alike.send`), and not by the values
  in its headers.  Therefore two configurations that ask the same addresses are served alike by the
  stores of this library (`Registry.parallel_connect`), whatever goes along in the headers.
-/
import NetDelegate.Proofs.Config.Failure
import NetDelegate.Proofs.Engine.Requests

namespace NetDelegate

/-! ### Sessions -/

/-- Two networks, each after the requests that were made to it, reply alike to requests that
    correspond, now and after further requests that correspond. -/
def Network.AnswersAlike (R : Request → Request → Prop) (net : Network) (log : List Request)
    (net' : Network) (log' : List Request) : Prop :=
  ∀ sent sent' r r', List.Forall₂ R sent sent' → R r r' →
    net (log ++ sent) r = net' (log' ++ sent') r'

/-- The sessions come to results that correspond, and make requests that correspond. -/
def Session.Parallel {α β : Type} (R : Request → Request → Prop) (E : Error → Error → Prop)
    (Q : α → β → Prop) (net : Network) (log : List Request) (net' : Network)
    (log' : List Request) (session : Session α) (session' : Session β) : Prop :=
  ∃ x y sent sent', session net log = (x, log ++ sent) ∧ session' net' log' = (y, log' ++ sent') ∧
    Corresponds E Q x y ∧ List.Forall₂ R sent sent'

section
variable {R : Request → Request → Prop} {E : Error → Error → Prop} {net net' : Network}
  {log log' : List Request}

theorem Network.AnswersAlike.reply_eq (h : AnswersAlike R net log net' log') {r r' : Request}
    (hr : R r r') : net log r = net' log' r' := by
  simpa only [List.append_nil] using h [] [] r r' .nil hr

theorem Network.AnswersAlike.after (h : AnswersAlike R net log net' log')
    {sent sent' : List Request} (hsent : List.Forall₂ R sent sent') :
    AnswersAlike R net (log ++ sent) net' (log' ++ sent') := by
  intro more more' r r' hmore hr
  rw [List.append_assoc, List.append_assoc]
  exact h _ _ r r' (List.rel_append hsent hmore) hr

section
variable {α β γ δ : Type} {Q : α → β → Prop} {P : γ → δ → Prop}

theorem Session.parallel_pure {x : Except Error α} {y : Except Error β} (h : Corresponds E Q x y) :
    Parallel R E Q net log net' log' (pure x) (pure y) :=
  ⟨x, y, [], [], by rw [List.append_nil]; rfl, by rw [List.append_nil]; rfl, h, .nil⟩

/-- Sessions that run in parallel and go on in parallel. -/
theorem Session.Parallel.bind {session : Session α} {session' : Session β}
    {next : α → Session γ} {next' : β → Session δ}
    (h : Parallel R E Q net log net' log' session session')
    (hnext : ∀ a b sent sent', Q a b → List.Forall₂ R sent sent' →
      Parallel R E P net (log ++ sent) net' (log' ++ sent') (next a) (next' b)) :
    Parallel R E P net log net' log' (session >>= next) (session' >>= next') := by
  obtain ⟨x, y, sent, sent', hrun, hrun', hresult, hsent⟩ := h
  change Parallel R E P net log net' log' (Session.bind session next) (Session.bind session' next')
  cases hresult with
  | @error e e' he =>
    refine ⟨.error e, .error e', sent, sent', ?_, ?_, .error he, hsent⟩
    · simp only [Session.bind, hrun]
    · simp only [Session.bind, hrun']
  | @ok a b hab =>
    obtain ⟨x, y, more, more', hgoes, hgoes', hresult, hmore⟩ := hnext a b sent sent' hab hsent
    refine ⟨x, y, sent ++ more, sent' ++ more', ?_, ?_, hresult, List.rel_append hsent hmore⟩
    · simp only [Session.bind, hrun, hgoes, List.append_assoc]
    · simp only [Session.bind, hrun', hgoes', List.append_assoc]

end

/-! ### Drafts -/

/-- The drafts hand on the same address, both have a token that is fit for a header or neither has,
    and their requests correspond. -/
structure Draft.Alike (R : Request → Request → Prop) (draft draft' : Draft) : Prop where
  url : draft.prepared.url = draft'.prepared.url
  header : (∀ token ∈ draft.token, ∀ b ∈ utf8 token, isHeaderByte b = true) ↔
    ∀ token ∈ draft'.token, ∀ b ∈ utf8 token, isHeaderByte b = true
  request : R draft.prepared.request draft'.prepared.request

variable {draft draft' : Draft}

theorem Draft.Alike.send (h : draft.Alike R draft')
    (hnet : Network.AnswersAlike R net log net' log') :
    ∃ outcome sent sent', draft.send net log = (outcome, log ++ sent) ∧
      draft'.send net' log' = (outcome, log' ++ sent') ∧ List.Forall₂ R sent sent' := by
  by_cases hheader : ∀ token ∈ draft.token, ∀ b ∈ utf8 token, isHeaderByte b = true
  · by_cases haddress : isSendable draft.prepared.url = true
    · have hmade : draft.CanBeMade := ⟨hheader, haddress⟩
      have hmade' : draft'.CanBeMade := ⟨h.header.1 hheader, h.url ▸ haddress⟩
      rw [draft.send_of_canBeMade hmade, draft'.send_of_canBeMade hmade', ← h.url,
        hnet.reply_eq h.request]
      by_cases hreached : (net' log' draft'.prepared.request).isReached = true
      · rw [if_pos hreached, if_pos hreached]
        exact ⟨_, _, _, rfl, rfl, .cons h.request .nil⟩
      · rw [if_neg hreached, if_neg hreached]
        exact ⟨_, [], [], by rw [List.append_nil], by rw [List.append_nil], .nil⟩
    · rw [Draft.send_of_badAddress hheader haddress,
        Draft.send_of_badAddress (h.header.1 hheader) (h.url ▸ haddress), h.url]
      exact ⟨_, [], [], by rw [List.append_nil], by rw [List.append_nil], .nil⟩
  · rw [Draft.send_of_badHeader hheader, Draft.send_of_badHeader (mt h.header.2 hheader)]
    exact ⟨_, [], [], by rw [List.append_nil], by rw [List.append_nil], .nil⟩

/-- The errors in which opening a connection can end correspond. -/
structure Store.OpenErrorsAlike (E : Error → Error → Prop) (config config' : Config) : Prop where
  unknown : E (.unsupportedBackend config.backend) (.unsupportedBackend config'.backend)
  timedOut : E (.connectTimeout config.endpoint.text config.timeout)
    (.connectTimeout config'.endpoint.text config'.timeout)
  failed : ∀ message, E (.connectFailed config.backend config.endpoint.text message)
    (.connectFailed config'.backend config'.endpoint.text message)

section
variable {config config' : Config}

theorem Store.OpenErrorsAlike.connectError (h : OpenErrorsAlike E config config')
    (fault : SendFault) :
    E (Store.connectError config fault) (Store.connectError config' fault) := by
  cases fault with
  | timedOut url => exact h.timedOut
  | badHeader => exact h.failed _
  | badAddress url => exact h.failed _
  | failed url => exact h.failed _

theorem Store.parallel_probe (h : draft.Alike R draft') (herrors : OpenErrorsAlike E config config')
    (hnet : Network.AnswersAlike R net log net' log') :
    Session.Parallel R E Eq net log net' log' (probe config draft) (probe config' draft') := by
  obtain ⟨outcome, sent, sent', hsend, hsend', hsent⟩ := h.send hnet
  match outcome with
  | .error fault =>
    refine ⟨.error _, .error _, sent, sent', ?_, ?_, .error (herrors.connectError fault), hsent⟩
    · simp only [probe, hsend]
    · simp only [probe, hsend']
  | .ok (status, body) =>
    by_cases hsuccess : Status.isSuccess status = true
    · refine ⟨.ok (), .ok (), sent, sent', ?_, ?_, .ok rfl, hsent⟩
      · simp only [probe, hsend, hsuccess, if_true]
      · simp only [probe, hsend', hsuccess, if_true]
    · have hrefused := herrors.failed ("handshake returned HTTP " ++ Status.text status)
      refine ⟨.error _, .error _, sent, sent', ?_, ?_, .error hrefused, hsent⟩
      · simp only [probe, hsend, if_neg hsuccess]
      · simp only [probe, hsend', if_neg hsuccess]

theorem Store.parallel_fetch (fail : String → Error) (h : draft.Alike R draft')
    (hnet : Network.AnswersAlike R net log net' log') :
    Session.Parallel R Eq Eq net log net' log' (fetch fail draft) (fetch fail draft') := by
  obtain ⟨outcome, sent, sent', hsend, hsend', hsent⟩ := h.send hnet
  match outcome with
  | .error fault =>
    refine ⟨.error (fail fault.text), .error _, sent, sent', ?_, ?_, .error rfl, hsent⟩
    · simp only [fetch, hsend]
    · simp only [fetch, hsend']
  | .ok (status, none) =>
    refine ⟨.error (fail bodyFault), .error _, sent, sent', ?_, ?_, .error rfl, hsent⟩
    · simp only [fetch, hsend]
    · simp only [fetch, hsend']
  | .ok (status, some body) =>
    refine ⟨.ok (status, body), .ok _, sent, sent', ?_, ?_, .ok rfl, hsent⟩
    · simp only [fetch, hsend]
    · simp only [fetch, hsend']

theorem Store.parallel_get (fail : String → Error) (classify : Nat × Bytes → Except Error Bytes)
    (h : draft.Alike R draft') (hnet : Network.AnswersAlike R net log net' log') :
    Session.Parallel R Eq Eq net log net' log'
      (fetch fail draft >>= fun answer => Session.pure (classify answer))
      (fetch fail draft' >>= fun answer => Session.pure (classify answer)) := by
  refine (parallel_fetch fail h hnet).bind fun answer answer' sent sent' hanswer _ => ?_
  rw [hanswer]
  exact Session.parallel_pure (corresponds_refl (fun _ => rfl) _)

/-! ### Stores -/

/-- Both stores have one name, and values are got from them in parallel. -/
structure Store.Alike (R : Request → Request → Prop) (store store' : Store) : Prop where
  backend : store.backend = store'.backend
  get : ∀ key net log net' log', Network.AnswersAlike R net log net' log' →
    Session.Parallel R Eq Eq net log net' log' (store.get key) (store'.get key)

theorem Store.parallel_open {store store' : Store} (h : draft.Alike R draft')
    (herrors : OpenErrorsAlike E config config') (hstore : store.Alike R store')
    (hnet : Network.AnswersAlike R net log net' log') :
    Session.Parallel R E (Store.Alike R) net log net' log'
      (do Store.probe config draft; return store) (do Store.probe config' draft'; return store') :=
  (parallel_probe h herrors hnet).bind fun _ _ _ _ _ _ => Session.parallel_pure (.ok hstore)

/-! ### Configurations -/

/-- The requests that two configurations make for one address. -/
def Config.Counterparts (config config' : Config) (r r' : Request) : Prop :=
  ∃ url, r = config.requestFor url ∧ r' = config'.requestFor url

/-- The configurations ask the same addresses of stores of the same name, and both have a token
    that is fit for a header or neither has. -/
structure Config.AsksAlike (config config' : Config) : Prop where
  backend : config.backend = config'.backend
  endpoint : config.endpoint.outgoing = config'.endpoint.outgoing
  datacenter : config.option? "datacenter" = config'.option? "datacenter"
  header : (∀ token ∈ config.optionToken, ∀ b ∈ token, Draft.isHeaderByte b = true) ↔
    ∀ token ∈ config'.optionToken, ∀ b ∈ token, Draft.isHeaderByte b = true

theorem Url.asked_outgoing (u : Url) : u.outgoing.asked = u.asked := by
  unfold Url.outgoing
  split <;> rfl

theorem Url.query_outgoing (u : Url) : u.outgoing.query = u.query := by
  unfold Url.outgoing
  split <;> rfl

theorem Store.outgoing_keyUrl (endpoint : Url) (top : List String) (key : String) :
    (keyUrl endpoint top key).outgoing = keyUrl endpoint.outgoing top key := by
  have hcredentials : Draft.credentials? (keyUrl endpoint top key) = Draft.credentials? endpoint :=
    rfl
  rw [Url.outgoing, Url.outgoing, hcredentials]
  split <;> rfl

theorem Consul.outgoing_keyUrl (config : Config) (key : String) :
    (keyUrl config key).outgoing =
      { Store.keyUrl config.endpoint.outgoing ["v1", "kv"] key with
        query := some (query config) } := by
  have hcredentials : Draft.credentials? (keyUrl config key) = Draft.credentials? config.endpoint :=
    rfl
  rw [Url.outgoing, Url.outgoing, hcredentials]
  split <;> rfl

theorem Draft.IsFor.header_iff (h : draft.IsFor config) :
    (∀ token ∈ draft.token, ∀ b ∈ utf8 token, isHeaderByte b = true) ↔
      ∀ token ∈ config.optionToken, ∀ b ∈ token, isHeaderByte b = true := by
  rw [← h.token]
  simp

namespace Config.AsksAlike

theorem outgoing_keyUrl (h : AsksAlike config config') (top : List String) (key : String) :
    (Store.keyUrl config.endpoint top key).outgoing =
      (Store.keyUrl config'.endpoint top key).outgoing := by
  rw [Store.outgoing_keyUrl, Store.outgoing_keyUrl, h.endpoint]

theorem query_eq (h : AsksAlike config config') : Consul.query config = Consul.query config' := by
  have hquery : config.endpoint.query = config'.endpoint.query := by
    rw [← Url.query_outgoing, h.endpoint, Url.query_outgoing]
  rw [Consul.query, Consul.query, hquery, h.datacenter]

theorem draft_alike (h : AsksAlike config config') (hdraft : draft.IsFor config)
    (hdraft' : draft'.IsFor config') (hurl : draft.url.outgoing = draft'.url.outgoing) :
    draft.Alike (Counterparts config config') draft' where
  url := by rw [draft.url_prepared, draft'.url_prepared, hurl]
  header := by rw [hdraft.header_iff, hdraft'.header_iff, h.header]
  request := by
    refine ⟨draft.url, hdraft.request_eq, ?_⟩
    rw [hdraft'.request_eq, requestFor, requestFor, ← Url.asked_outgoing, ← hurl,
      Url.asked_outgoing]

theorem etcd_alike (h : AsksAlike config config') (hbackend : config.backend = Etcd.backend) :
    Store.Alike (Counterparts config config') ⟨Etcd.backend, Etcd.get config⟩
      ⟨Etcd.backend, Etcd.get config'⟩ := by
  refine ⟨rfl, fun key net log net' log' hnet => ?_⟩
  simp only [Etcd.get_eq]
  refine Store.parallel_get _ (fun answer => Etcd.classify key answer.1 answer.2) ?_ hnet
  exact h.draft_alike (Etcd.isFor_draft hbackend (Store.samePlace_keyUrl _ _ _))
    (Etcd.isFor_draft (h.backend ▸ hbackend) (Store.samePlace_keyUrl _ _ _))
    (h.outgoing_keyUrl _ key)

theorem consul_alike (h : AsksAlike config config') (hbackend : config.backend = Consul.backend) :
    Store.Alike (Counterparts config config') ⟨Consul.backend, Consul.get config⟩
      ⟨Consul.backend, Consul.get config'⟩ := by
  refine ⟨rfl, fun key net log net' log' hnet => ?_⟩
  simp only [Consul.get_eq]
  refine Store.parallel_get _ (fun answer => Consul.classify key answer.1 answer.2) ?_ hnet
  refine h.draft_alike (Consul.isFor_draft hbackend ⟨rfl, rfl, rfl, rfl, rfl⟩)
    (Consul.isFor_draft (h.backend ▸ hbackend) ⟨rfl, rfl, rfl, rfl, rfl⟩) ?_
  change (Consul.keyUrl config key).outgoing = (Consul.keyUrl config' key).outgoing
  rw [Consul.outgoing_keyUrl, Consul.outgoing_keyUrl, h.endpoint, h.query_eq]

end Config.AsksAlike

/-- **Opening a connection side by side.**  Configurations that ask the same addresses open
    connections to stores that serve them alike, or fail alike. -/
theorem Registry.parallel_connect (h : config.AsksAlike config')
    (herrors : Store.OpenErrorsAlike E config config')
    (hnet : Network.AnswersAlike (config.Counterparts config') net log net' log') :
    Session.Parallel (config.Counterparts config') E (Store.Alike (config.Counterparts config'))
      net log net' log' (Registry.builtin.connect config) (Registry.builtin.connect config') := by
  rw [Registry.connect_builtin, Registry.connect_builtin, Consul.connect_eq, Consul.connect_eq,
    Etcd.connect_eq, Etcd.connect_eq, ← h.backend]
  by_cases hconsul : config.backend = Consul.backend
  · rw [if_pos hconsul, if_pos hconsul]
    refine Store.parallel_open ?_ herrors (h.consul_alike hconsul) hnet
    exact h.draft_alike (Consul.isFor_draft hconsul (Store.samePlace_keyUrl _ _ _))
      (Consul.isFor_draft (h.backend ▸ hconsul) (Store.samePlace_keyUrl _ _ _))
      (h.outgoing_keyUrl _ "")
  · rw [if_neg hconsul, if_neg hconsul]
    by_cases hetcd : config.backend = Etcd.backend
    · rw [if_pos hetcd, if_pos hetcd]
      refine Store.parallel_open ?_ herrors (h.etcd_alike hetcd) hnet
      exact h.draft_alike (Etcd.isFor_draft hetcd (Store.samePlace_keyUrl _ _ _))
        (Etcd.isFor_draft (h.backend ▸ hetcd) (Store.samePlace_keyUrl _ _ _))
        (h.outgoing_keyUrl _ "")
    · rw [if_neg hetcd, if_neg hetcd]
      refine Session.parallel_pure (.error ?_)
      rw [h.backend]
      exact h.backend ▸ herrors.unknown

end

end

end NetDelegate
