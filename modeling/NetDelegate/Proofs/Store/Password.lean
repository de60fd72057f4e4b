/-
  NetDelegate/Proofs/Store/Password.lean
  ======================================
  **What shows the password of an address.**  Two configurations differ in the password in front of
  the host of their endpoint, and the services answer the requests of both alike.  An error of
  opening a connection names the endpoint as it is written, and so shows the password
  (`Registry.endpoint?_of_connect`).  An error of getting a value names the address that was handed
  on, from which credentials are taken away if they are text; it shows the password just where they
  are not (`Registry.get_withPassword_iff`).
-/
import NetDelegate.Proofs.Store.Credentials
import NetDelegate.Proofs.Store.Failure
import NetDelegate.Proofs.Store.TwoRuns

namespace NetDelegate

/-! ### Requests -/

/-- The address that a fault names. -/
def SendFault.url? : SendFault → Option String
  | badHeader => none
  | badAddress url | failed url | timedOut url => some url

theorem toList_enclosed (opening url : String) :
    (opening ++ url ++ ")").toList = opening.toList ++ (url.toList ++ [')']) := by
  rw [String.toList_append, String.toList_append, List.append_assoc]
  rfl

theorem SendFault.toList_text {fault : SendFault} {url : String} (h : fault.url? = some url) :
    fault.text.toList = "builder error for url (".toList ++ (url.toList ++ [')']) ∨
      fault.text.toList = "error sending request for url (".toList ++ (url.toList ++ [')']) := by
  cases fault with
  | badHeader => cases h
  | badAddress named =>
    obtain rfl := Option.some.inj h
    exact .inl (toList_enclosed _ _)
  | failed named =>
    obtain rfl := Option.some.inj h
    exact .inr (toList_enclosed _ _)
  | timedOut named =>
    obtain rfl := Option.some.inj h
    exact .inr (toList_enclosed _ _)

theorem toList_append_ne (xs ys : List Char) :
    "builder error for url (".toList ++ xs ≠ "error sending request for url (".toList ++ ys := by
  rw [String.toList_ofList, String.toList_ofList]
  exact fun h => absurd (List.cons.inj h).1 (by decide)

/-- The wording of a fault tells the address that it names. -/
theorem SendFault.url_eq_of_text_eq {fault fault' : SendFault} {url url' : String}
    (h : fault.url? = some url) (h' : fault'.url? = some url') (htext : fault.text = fault'.text) :
    url = url' := by
  have hsame := congrArg String.toList htext
  rcases toList_text h with hurl | hurl
  · rcases toList_text h' with hurl' | hurl'
    · rw [hurl, hurl'] at hsame
      exact String.toList_inj.1 (List.append_cancel_right (List.append_cancel_left hsame))
    · rw [hurl, hurl'] at hsame
      exact absurd hsame (toList_append_ne _ _)
  · rcases toList_text h' with hurl' | hurl'
    · rw [hurl, hurl'] at hsame
      exact absurd hsame.symm (toList_append_ne _ _)
    · rw [hurl, hurl'] at hsame
      exact String.toList_inj.1 (List.append_cancel_right (List.append_cancel_left hsame))

theorem SendFault.text_ne_bodyFault {fault : SendFault} {url : String} (h : fault.url? = some url) :
    fault.text ≠ bodyFault := by
  intro htext
  have hsame := congrArg String.toList htext
  rcases toList_text h with hurl | hurl
  · rw [hurl, bodyFault, String.toList_ofList, String.toList_ofList] at hsame
    exact absurd (List.cons.inj hsame).1 (by decide)
  · rw [hurl, bodyFault, String.toList_ofList, String.toList_ofList] at hsame
    exact absurd (congrArg (·.take 7) hsame) (by simp)

/-- The request is made, and a service answers with a status. -/
def Draft.HasStatus (draft : Draft) (net : Network) (log : List Request) : Prop :=
  draft.CanBeMade ∧ ∃ status body, net log draft.prepared.request = .answered status body

section
variable {draft draft' : Draft} {net net' : Network} {log log' : List Request}

theorem Reply.outcome_cases (url : String) (reply : Reply) :
    (∃ status body, reply = .answered status body ∧ reply.outcome url = .ok (status, body)) ∨
      ∃ fault : SendFault, fault.url? = some url ∧ reply.outcome url = .error fault := by
  cases reply with
  | unreachable => exact .inr ⟨_, rfl, rfl⟩
  | delayed => exact .inr ⟨_, rfl, rfl⟩
  | broken => exact .inr ⟨_, rfl, rfl⟩
  | silent => exact .inr ⟨_, rfl, rfl⟩
  | answered status body => exact .inl ⟨status, body, rfl, rfl⟩

/-- With a header that is legal, a request comes to the answer, or to a fault that names the address
    which is handed on. -/
theorem Draft.fst_send_cases
    (hheader : ∀ token ∈ draft.token, ∀ b ∈ utf8 token, isHeaderByte b = true) (net : Network)
    (log : List Request) :
    (draft.HasStatus net log ∧ ∃ answer, (draft.send net log).1 = .ok answer) ∨
      ∃ fault : SendFault, fault.url? = some draft.prepared.url.text ∧
        (draft.send net log).1 = .error fault := by
  by_cases haddress : isSendable draft.prepared.url = true
  · have hmade : draft.CanBeMade := ⟨hheader, haddress⟩
    rw [draft.send_of_canBeMade hmade]
    rcases Reply.outcome_cases draft.prepared.url.text (net log draft.prepared.request) with
      ⟨status, body, hreply, houtcome⟩ | hfault
    · exact .inl ⟨⟨hmade, status, body, hreply⟩, _, houtcome⟩
    · exact .inr hfault
  · rw [Draft.send_of_badAddress hheader haddress]
    exact .inr ⟨_, rfl, rfl⟩

/-- What getting a value comes to, by the outcome of its request. -/
def Store.valueOf (fail : String → Error) (classify : Nat × Bytes → Except Error Bytes) :
    Except SendFault (Nat × Option Bytes) → Except Error Bytes
  | .error fault => .error (fail fault.text)
  | .ok (_, none) => .error (fail bodyFault)
  | .ok (status, some body) => classify (status, body)

theorem Store.fst_get (fail : String → Error) (classify : Nat × Bytes → Except Error Bytes)
    (draft : Draft) (net : Network) (log : List Request) :
    ((fetch fail draft >>= fun answer =>
        Session.pure (classify answer) : Session Bytes) net log).1 =
      valueOf fail classify (draft.send net log).1 := by
  rw [Session.fst_bind_pure]
  unfold fetch
  match draft.send net log with
  | (.error fault, after) => rfl
  | (.ok (status, none), after) => rfl
  | (.ok (status, some body), after) => rfl

section
variable {backend key : String} {classify : Nat × Bytes → Except Error Bytes}

/-- A request without an answer does not come to what an answer comes to. -/
theorem Store.valueOf_error_ne
    (hclassify : ∀ {answer e}, classify answer = .error e → IsAnswerError backend key e)
    {fault : SendFault} {url : String} (hurl : fault.url? = some url)
    (answer : Nat × Option Bytes) :
    valueOf (.storeFailed backend key) classify (.error fault) ≠
      valueOf (.storeFailed backend key) classify (.ok answer) := by
  intro h
  match answer with
  | (status, none) =>
    have he := Except.error.inj h
    exact SendFault.text_ne_bodyFault hurl (Error.storeFailed.inj he).2.2
  | (status, some body) =>
    have hmessage : fault.text.toList.take 2 ∉ answerBeginnings := by
      rcases fault.take_text with htake | htake
      · rw [htake]
        decide
      · rw [htake]
        decide
    exact (hclassify h.symm).ne_of_take hmessage backend key rfl

/-- Two requests that have the same reply come to the same just if the addresses that are handed on
    are written alike, or both have an answer. -/
theorem Store.valueOf_send_eq_iff
    (hclassify : ∀ {answer e}, classify answer = .error e → IsAnswerError backend key e)
    (hheader : ∀ token ∈ draft.token, ∀ b ∈ utf8 token, Draft.isHeaderByte b = true)
    (hheader' : ∀ token ∈ draft'.token, ∀ b ∈ utf8 token, Draft.isHeaderByte b = true)
    (hhost : draft.prepared.url.host = draft'.prepared.url.host)
    (hreply : net log draft.prepared.request = net' log' draft'.prepared.request) :
    valueOf (.storeFailed backend key) classify (draft.send net log).1 =
        valueOf (.storeFailed backend key) classify (draft'.send net' log').1 ↔
      draft.prepared.url.text = draft'.prepared.url.text ∨
        draft.HasStatus net log ∧ draft'.HasStatus net' log' := by
  constructor
  · intro h
    rcases Draft.fst_send_cases hheader net log with ⟨hstatus, answer, hsend⟩ | ⟨fault, hurl, hsend⟩
    · rcases Draft.fst_send_cases hheader' net' log' with ⟨hstatus', -⟩ | ⟨fault', hurl', hsend'⟩
      · exact .inr ⟨hstatus, hstatus'⟩
      · rw [hsend, hsend'] at h
        exact absurd h.symm (valueOf_error_ne hclassify hurl' answer)
    · rcases Draft.fst_send_cases hheader' net' log' with
        ⟨-, answer', hsend'⟩ | ⟨fault', hurl', hsend'⟩
      · rw [hsend, hsend'] at h
        exact absurd h (valueOf_error_ne hclassify hurl answer')
      · rw [hsend, hsend'] at h
        have htext := (Error.storeFailed.inj (Except.error.inj h)).2.2
        exact .inl (SendFault.url_eq_of_text_eq hurl hurl' htext)
  · rintro (htext | ⟨⟨hmade, -⟩, ⟨hmade', status, body, hreply'⟩⟩)
    · by_cases haddress : Draft.isSendable draft.prepared.url = true
      · have haddress' : Draft.isSendable draft'.prepared.url = true := by
          rwa [Draft.isSendable, ← hhost, ← htext]
        rw [draft.send_of_canBeMade ⟨hheader, haddress⟩,
          draft'.send_of_canBeMade ⟨hheader', haddress'⟩, htext, hreply]
      · have haddress' : ¬Draft.isSendable draft'.prepared.url = true := by
          rwa [Draft.isSendable, ← hhost, ← htext]
        rw [Draft.send_of_badAddress hheader haddress, Draft.send_of_badAddress hheader' haddress',
          htext]
    · simp only [draft.send_of_canBeMade hmade, draft'.send_of_canBeMade hmade', hreply, hreply',
        Reply.outcome]

end

/-! ### Configurations -/

/-- The configuration with another password in front of the host of its endpoint. -/
def Config.withPassword (config : Config) (password : String) : Config :=
  { config with endpoint := config.endpoint.withPassword password }

/-- The value of the key can be asked for, and a service answers with a status. -/
def Config.HasStatus (config : Config) (key : String) (net : Network) (log : List Request) : Prop :=
  ∃ probe value, config.addresses? key = some (probe, value) ∧ config.CanAsk value ∧
    ∃ status body, net log (config.requestFor value) = .answered status body

variable {config : Config} {password : String}

theorem Draft.IsFor.hasStatus_iff (h : draft.IsFor config) {key : String} {probe : Url}
    (haddresses : config.addresses? key = some (probe, draft.url)) :
    draft.HasStatus net log ↔ config.HasStatus key net log := by
  rw [Draft.HasStatus, h.canBeMade_iff, h.request_eq, Config.HasStatus, haddresses]
  constructor
  · intro hstatus
    exact ⟨_, _, rfl, hstatus⟩
  · rintro ⟨_, value, hvalue, hstatus⟩
    obtain rfl : draft.url = value := (Prod.mk.inj (Option.some.inj hvalue)).2
    exact hstatus

theorem Config.addresses?_etcd (h : config.backend = Etcd.backend) (key : String) :
    ∃ probe, config.addresses? key = some (probe, Etcd.keyUrl config key) := by
  rw [addresses?, if_pos h]
  exact ⟨_, rfl⟩

theorem Config.addresses?_consul (h : config.backend = Consul.backend) (key : String) :
    ∃ probe, config.addresses? key = some (probe, Consul.keyUrl config key) := by
  rw [addresses?, if_neg (by rw [h]; decide), if_pos h]
  exact ⟨_, rfl⟩

/-- Getting a value shows the password just if it is handed on in the address, and then not where
    the service answers. -/
theorem Store.valueOf_withPassword_iff {backend key : String} {probe probe' : Url}
    {classify : Nat × Bytes → Except Error Bytes}
    (hclassify : ∀ {answer e}, classify answer = .error e → IsAnswerError backend key e)
    (hdraft : draft.IsFor config) (hdraft' : draft'.IsFor (config.withPassword password))
    (hurl : draft.url.withoutCredentials = draft'.url.withoutCredentials)
    (haddresses : config.addresses? key = some (probe, draft.url))
    (haddresses' : (config.withPassword password).addresses? key = some (probe', draft'.url))
    (hlegal : ∀ token ∈ config.optionToken, ∀ b ∈ token, Draft.isHeaderByte b = true)
    (hnet : Network.AnswersAlike (config.Counterparts (config.withPassword password)) net log net'
      log') :
    valueOf (.storeFailed backend key) classify (draft.send net log).1 =
        valueOf (.storeFailed backend key) classify (draft'.send net' log').1 ↔
      config.endpoint.outgoing = (config.withPassword password).endpoint.outgoing ∨
        config.HasStatus key net log ∧ (config.withPassword password).HasStatus key net' log' := by
  have hasked : draft.url.asked = draft'.url.asked := congrArg Url.withoutFragment hurl
  have hreply : net log draft.prepared.request = net' log' draft'.prepared.request := by
    refine hnet.reply_eq ⟨draft.url, hdraft.request_eq, ?_⟩
    rw [hdraft'.request_eq, Config.requestFor, Config.requestFor, hasked]
  have hprepared : draft.prepared.url.withoutCredentials =
      draft'.prepared.url.withoutCredentials := by
    rw [draft.url_prepared, draft'.url_prepared, Url.withoutCredentials_outgoing,
      Url.withoutCredentials_outgoing, hurl]
  have hhost : draft.prepared.url.host = draft'.prepared.url.host := by
    have hsame := congrArg Url.host hurl
    rwa [draft.url_prepared, draft'.url_prepared, Url.host_outgoing, Url.host_outgoing]
  have hlegal' : ∀ token ∈ (config.withPassword password).optionToken, ∀ b ∈ token,
      Draft.isHeaderByte b = true := hlegal
  rw [valueOf_send_eq_iff hclassify (hdraft.header_iff.2 hlegal) (hdraft'.header_iff.2 hlegal')
      hhost hreply,
    hdraft.hasStatus_iff haddresses, hdraft'.hasStatus_iff haddresses', Url.text_eq_iff hprepared,
    draft.url_prepared, draft'.url_prepared, hdraft.samePlace.credentialsText_outgoing,
    hdraft'.samePlace.credentialsText_outgoing]
  exact or_congr_left Url.outgoing_withPassword

/-- Where a connection was opened, the token of the options was legal in a header. -/
theorem Registry.isLegal_of_connect {store : Store}
    (h : (Registry.builtin.connect config net log).1 = .ok store) :
    ∀ token ∈ config.optionToken, ∀ b ∈ token, Draft.isHeaderByte b = true := by
  by_cases hconsul : config.backend = Consul.backend
  · rw [Registry.connect_builtin, if_pos hconsul, Consul.connect_eq, Store.open_eq] at h
    obtain ⟨u, hprobe, -⟩ := Json.exists_of_map_eq_ok h
    have hsent := (Store.fst_probe_eq_ok_iff net log config _).1 hprobe
    have hfor := Consul.isFor_draft hconsul
      (Store.samePlace_keyUrl config.endpoint ["v1", "status", "leader"] "")
    exact hfor.header_iff.1 hsent.1.1.1
  · rw [Config.optionToken, if_neg hconsul]
    exact fun token htoken => absurd htoken List.not_mem_nil

/-! ### Errors -/

/-- The endpoint that an error of connecting names. -/
def Error.endpoint? : Error → Option String
  | .connectTimeout endpoint _ | .connectFailed _ endpoint _ => some endpoint
  | _ => none

/-- The error with no endpoint named in it. -/
def Error.withoutEndpoint : Error → Error
  | .connectTimeout _ timeout => .connectTimeout "" timeout
  | .connectFailed backend _ message => .connectFailed backend "" message
  | e => e

theorem Store.openErrorsAlike_withoutEndpoint :
    OpenErrorsAlike (fun e e' => e.withoutEndpoint = e'.withoutEndpoint) config
      (config.withPassword password) where
  unknown := rfl
  timedOut := by
    simp only [Error.withoutEndpoint]
    rfl
  failed := fun message => by
    simp only [Error.withoutEndpoint]
    rfl

theorem Store.endpoint?_of_probe {e : Error} (h : (probe config draft net log).1 = .error e) :
    e.endpoint? = some config.endpoint.text := by
  unfold probe at h
  split at h
  · next fault _ _ =>
    cases h
    cases fault <;> rfl
  · split at h
    · cases h
    · cases h
      rfl

/-- An error of opening a connection names the endpoint as it is written. -/
theorem Registry.endpoint?_of_connect
    (hbackend : config.backend = Etcd.backend ∨ config.backend = Consul.backend) {e : Error}
    (h : (Registry.builtin.connect config net log).1 = .error e) :
    e.endpoint? = some config.endpoint.text := by
  rw [Registry.connect_builtin, Consul.connect_eq, Etcd.connect_eq] at h
  split at h
  · exact Store.endpoint?_of_probe (Store.probe_of_open_error h)
  · next hconsul =>
    rw [if_pos (hbackend.resolve_right hconsul)] at h
    exact Store.endpoint?_of_probe (Store.probe_of_open_error h)

theorem Registry.backend_of_connect {store : Store}
    (h : (Registry.builtin.connect config net log).1 = .ok store) :
    store.backend = config.backend := by
  rcases store_of_connect_builtin h with ⟨hbackend, rfl⟩ | ⟨hbackend, rfl⟩
  · exact hbackend.symm
  · exact hbackend.symm

/-- Opening a connection with another password, where the same address is handed on. -/
theorem Registry.corresponds_connect {E : Error → Error → Prop}
    (hsame : config.endpoint.outgoing = (config.withPassword password).endpoint.outgoing)
    (herrors : Store.OpenErrorsAlike E config (config.withPassword password))
    (hnet : Network.AnswersAlike (config.Counterparts (config.withPassword password)) net log net'
      log') :
    Corresponds E (fun store store' => store.backend = store'.backend)
      (Registry.builtin.connect config net log).1
      (Registry.builtin.connect (config.withPassword password) net' log').1 := by
  have halike : config.AsksAlike (config.withPassword password) := ⟨rfl, hsame, rfl, Iff.rfl⟩
  obtain ⟨x, y, sent, sent', hrun, hrun', hresult, -⟩ :=
    Registry.parallel_connect halike herrors hnet
  rw [hrun, hrun']
  cases hresult with
  | error he => exact .error he
  | ok hstore => exact .ok hstore.backend

/-- Opening a connection comes to the same with another password just if it succeeds. -/
theorem Registry.connect_withPassword_iff
    (hbackend : config.backend = Etcd.backend ∨ config.backend = Consul.backend)
    (hnet : Network.AnswersAlike (config.Counterparts (config.withPassword password)) net log net'
      log') :
    let opened := (Registry.builtin.connect config net log).1
    let opened' := (Registry.builtin.connect (config.withPassword password) net' log').1
    opened.map Store.backend = opened'.map Store.backend ↔
      config.endpoint.password = password ∨
        opened.map Store.backend = .ok config.backend ∧
          opened'.map Store.backend = .ok config.backend := by
  intro opened opened'
  constructor
  · intro h
    cases hopened : opened with
    | ok store =>
      have hok : opened.map Store.backend = .ok config.backend := by
        rw [hopened, ← Registry.backend_of_connect hopened]
        rfl
      rw [hopened] at h
      exact .inr ⟨hopened ▸ hok, h.symm.trans (hopened ▸ hok)⟩
    | error e =>
      cases hopened' : opened' with
      | ok store =>
        rw [hopened, hopened'] at h
        cases h
      | error e' =>
        rw [hopened, hopened'] at h
        have he : e.endpoint? = e'.endpoint? := congrArg Error.endpoint? (Except.error.inj h)
        have hbackend' : (config.withPassword password).backend = Etcd.backend ∨
            (config.withPassword password).backend = Consul.backend := hbackend
        rw [Registry.endpoint?_of_connect hbackend hopened,
          Registry.endpoint?_of_connect hbackend' hopened'] at he
        have htext : config.endpoint.text = (config.endpoint.withPassword password).text :=
          Option.some.inj he
        exact .inl (Url.text_withPassword.1 htext)
  · rintro (rfl | ⟨hok, hok'⟩)
    · have herrors : Store.OpenErrorsAlike Eq config config := ⟨rfl, rfl, fun _ => rfl⟩
      have hcorresponds : Corresponds Eq _ opened opened' :=
        Registry.corresponds_connect rfl herrors hnet
      generalize opened = x, opened' = y at hcorresponds
      cases hcorresponds with
      | error he => rw [he]
      | ok hstore => exact congrArg Except.ok hstore
    · rw [hok, hok']

/-- Getting a value comes to the same with another password just if the same address is handed on,
    or the services answer. -/
theorem Registry.get_withPassword_iff {earlier earlier' : Network} {before before' : List Request}
    {store store' : Store}
    (hstore : (Registry.builtin.connect config earlier before).1 = .ok store)
    (hstore' : (Registry.builtin.connect (config.withPassword password) earlier' before').1 =
      .ok store')
    (hnet : Network.AnswersAlike (config.Counterparts (config.withPassword password)) net log net'
      log') (key : String) :
    (store.get key net log).1 = (store'.get key net' log').1 ↔
      config.endpoint.outgoing = (config.withPassword password).endpoint.outgoing ∨
        config.HasStatus key net log ∧ (config.withPassword password).HasStatus key net' log' := by
  have hlegal := Registry.isLegal_of_connect hstore
  rcases store_of_connect_builtin hstore with ⟨hconsul, rfl⟩ | ⟨hetcd, rfl⟩
  · rcases store_of_connect_builtin hstore' with ⟨hconsul', rfl⟩ | ⟨hetcd', -⟩
    · obtain ⟨probe, haddresses⟩ := config.addresses?_consul hconsul key
      obtain ⟨probe', haddresses'⟩ := (config.withPassword password).addresses?_consul hconsul' key
      simp only [Consul.get_eq]
      rw [Store.fst_get _ (fun answer => Consul.classify key answer.1 answer.2),
        Store.fst_get _ (fun answer => Consul.classify key answer.1 answer.2)]
      exact Store.valueOf_withPassword_iff Consul.isAnswerError_of_classify
        (Consul.isFor_draft hconsul ⟨rfl, rfl, rfl, rfl, rfl⟩)
        (Consul.isFor_draft hconsul' ⟨rfl, rfl, rfl, rfl, rfl⟩) rfl haddresses haddresses' hlegal
        hnet
    · exact absurd (hconsul.symm.trans hetcd') (by decide)
  · rcases store_of_connect_builtin hstore' with ⟨hconsul', -⟩ | ⟨hetcd', rfl⟩
    · exact absurd (hetcd.symm.trans hconsul') (by decide)
    · obtain ⟨probe, haddresses⟩ := config.addresses?_etcd hetcd key
      obtain ⟨probe', haddresses'⟩ := (config.withPassword password).addresses?_etcd hetcd' key
      simp only [Etcd.get_eq]
      rw [Store.fst_get _ (fun answer => Etcd.classify key answer.1 answer.2),
        Store.fst_get _ (fun answer => Etcd.classify key answer.1 answer.2)]
      exact Store.valueOf_withPassword_iff Etcd.isAnswerError_of_classify
        (Etcd.isFor_draft hetcd (Store.samePlace_keyUrl _ _ _))
        (Etcd.isFor_draft hetcd' (Store.samePlace_keyUrl _ _ _)) rfl haddresses haddresses' hlegal
        hnet

end

/-- **What shows the password of an address.**  Let two configurations for a store of this library
    differ in the password in front of the host of their endpoint, and let the services answer the
    requests of both alike.  Then opening a connection comes to the same just if it succeeds, or the
    passwords are the same.  Where the same address is handed on, the errors differ in the
    endpoint that they name and in nothing else.  Getting a value comes to the same just if the same
    address is handed on, or the services answer. -/
theorem Registry.shows_password_iff {config : Config} {password : String} {net net' : Network}
    {log log' : List Request}
    (hbackend : config.backend = Etcd.backend ∨ config.backend = Consul.backend)
    (hanswers : Network.AnswersAlike (config.Counterparts (config.withPassword password)) net log
      net' log') :
    let config' := config.withPassword password
    let opened := (Registry.builtin.connect config net log).1
    let opened' := (Registry.builtin.connect config' net' log').1
    let asksSame := config.endpoint.outgoing = config'.endpoint.outgoing
    (opened.map Store.backend = opened'.map Store.backend ↔
      config.endpoint.password = password ∨
        opened.map Store.backend = .ok config.backend ∧
          opened'.map Store.backend = .ok config.backend) ∧
    (asksSame → Corresponds (fun e e' => e.withoutEndpoint = e'.withoutEndpoint)
      (fun store store' => store.backend = store'.backend) opened opened') ∧
    ∀ store store', opened = .ok store → opened' = .ok store' →
      ∀ key net log net' log',
        Network.AnswersAlike (config.Counterparts config') net log net' log' →
        ((store.get key net log).1 = (store'.get key net' log').1 ↔
          asksSame ∨ config.HasStatus key net log ∧ config'.HasStatus key net' log') := by
  intro config' opened opened' asksSame
  refine ⟨connect_withPassword_iff hbackend hanswers, fun hsame => ?_, ?_⟩
  · exact corresponds_connect hsame Store.openErrorsAlike_withoutEndpoint hanswers
  · intro store store' hstore hstore' key net log net' log' hnet
    exact get_withPassword_iff hstore hstore' hnet key

/-- A configuration with a password in front of the host of its endpoint. -/
def Config.guarded (password : String) : Config where
  name := ""
  version := none
  backend := Etcd.backend
  endpoint := ⟨.https, "u", password, .domain "h", some 1, [""], none, none⟩
  basePath := "/"
  options := NameMap.empty
  timeout := defaultTimeout

/-- The text of such a configuration. -/
def Config.guardedText (password : String) : Bytes :=
  utf8 ("\x7b\"storeBackend\":\"etcd\",\"uri\":\"https://u:" ++ password ++ "@h:1\"\x7d")

theorem Config.load_guardedText :
    load (fun _ => none) (guardedText "a") = .ok (guarded "a") ∧
      load (fun _ => none) (guardedText "b") = .ok ((guarded "a").withPassword "b") := by
  decide +kernel

/-- The password does not show where a connection is opened and breaks when a value is asked for. -/
theorem Registry.shows_password_iff_broken :
    let net : Network := fun log _ => if log = [] then .answered 200 none else .broken
    let config := Config.guarded "a"
    Config.load (fun _ => none) (Config.guardedText "a") = .ok config ∧
    Config.load (fun _ => none) (Config.guardedText "b") = .ok (config.withPassword "b") ∧
    ∃ store store', (Registry.builtin.connect config net []).1 = .ok store ∧
      (Registry.builtin.connect (config.withPassword "b") net []).1 = .ok store' ∧
      ∀ key request request',
        (store.get key net [request]).1 = (store'.get key net [request']).1 := by
  intro net config
  refine ⟨Config.load_guardedText.1, Config.load_guardedText.2, ?_⟩
  have hanswers : Network.AnswersAlike (config.Counterparts (config.withPassword "b")) net [] net
      [] := by
    intro sent sent' r r' hsent _
    cases hsent with
    | nil => rfl
    | cons _ _ => rfl
  have hsame : config.endpoint.outgoing = (config.withPassword "b").endpoint.outgoing :=
    Url.outgoing_withPassword_of_isSome (by decide +kernel) (by decide +kernel)
  have hopened : (Registry.builtin.connect config net []).1.map Store.backend =
      .ok Etcd.backend := by decide +kernel
  have hopened' : (Registry.builtin.connect (config.withPassword "b") net []).1.map
      Store.backend = .ok Etcd.backend := by decide +kernel
  obtain ⟨store, hstore, -⟩ := Json.exists_of_map_eq_ok hopened
  obtain ⟨store', hstore', -⟩ := Json.exists_of_map_eq_ok hopened'
  refine ⟨store, store', hstore, hstore', fun key request request' => ?_⟩
  obtain ⟨-, -, hget⟩ := Registry.shows_password_iff (.inl rfl) hanswers
  have hbroken := hget store store' hstore hstore' key net [request] net [request']
    fun _ _ _ _ _ _ => rfl
  exact hbroken.2 (.inl hsame)

/-- Configurations with different passwords fail to open a connection, and say so with the
    password. -/
theorem Registry.connect_shows_password :
    let net : Network := fun _ _ => .unreachable
    let message (config : Config) : Option String :=
      match (Registry.builtin.connect config net []).1 with
      | .ok _ => none
      | .error e => some e.message
    let config := Config.guarded "a"
    Config.load (fun _ => none) (Config.guardedText "a") = .ok config ∧
    Config.load (fun _ => none) (Config.guardedText "b") = .ok (config.withPassword "b") ∧
    message config = some ("cannot connect to etcd store at https://u:a@h:1/: " ++
      "error sending request for url (https://h:1/version)") ∧
    message (config.withPassword "b") = some ("cannot connect to etcd store at " ++
      "https://u:b@h:1/: error sending request for url (https://h:1/version)") :=
  ⟨Config.load_guardedText.1, Config.load_guardedText.2, by decide +kernel, by decide +kernel⟩

end NetDelegate
