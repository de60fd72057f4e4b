/-
  NetDelegate/Proofs/Engine/Secrets.lean
  ======================================
  **Secret options stay in the headers.**  Setups that are given the same but for the password and
  the token come to the same, save the same and make the same calls, and their requests differ in
  the values of headers only (`attach_sameButSecrets`), provided that the services answer the
  requests of both alike.  Loading comes to configurations that are alike, these ask the same
  addresses (`Config.Alike.asksAlike`), and what follows depends on what was fetched alone.
-/
import NetDelegate.Proofs.Config.Secrets
import NetDelegate.Proofs.Store.TwoRuns

namespace NetDelegate

/-- The requests are the same but for the values of their headers: each header is in both, and as
    often. -/
structure Request.SameButHeaders (r r' : Request) : Prop where
  url : r.url = r'.url
  authorization : r.authorization.length = r'.authorization.length
  token : r.token.length = r'.token.length

namespace Config

section
variable {config config' : Config}

theorem Alike.isSome_option?_eq (h : Alike config config') (name : String) :
    (config.option? name).isSome = (config'.option? name).isSome :=
  h.options.isSome_get?_eq name

theorem Alike.isLegal_optionToken_iff (h : Alike config config') :
    (∀ token ∈ config.optionToken, ∀ b ∈ token, Draft.isHeaderByte b = true) ↔
      ∀ token ∈ config'.optionToken, ∀ b ∈ token, Draft.isHeaderByte b = true := by
  have hrel : Option.Rel (SameOrSecret "token") (config.option? "token")
      (config'.option? "token") := h.options "token"
  rw [optionToken, optionToken, h.backend]
  generalize config.option? "token" = value at hrel ⊢
  generalize config'.option? "token" = value' at hrel ⊢
  split
  · cases hrel with
    | none => exact Iff.rfl
    | some hvalue =>
      rcases hvalue with rfl | ⟨hsecret, hsecret'⟩
      · exact Iff.rfl
      · have hlegal := (hsecret.resolve_left (by decide)).2
        have hlegal' := (hsecret'.resolve_left (by decide)).2
        simp only [Option.map_some, Option.toList_some, List.mem_singleton, forall_eq]
        exact iff_of_true hlegal hlegal'
  · exact Iff.rfl

/-- Secret options do not count for what is asked. -/
theorem Alike.asksAlike (h : Alike config config') : AsksAlike config config' where
  backend := h.backend
  endpoint := by rw [h.endpoint]
  datacenter := h.options.get?_eq (by decide)
  header := h.isLegal_optionToken_iff

theorem Alike.openErrorsAlike (h : Alike config config') :
    Store.OpenErrorsAlike Eq config config' where
  unknown := by rw [h.backend]
  timedOut := by rw [h.endpoint, h.timeout]
  failed := fun message => by rw [h.backend, h.endpoint]

theorem length_optionCredentials (config : Config) :
    config.optionCredentials.length =
      if config.backend = Etcd.backend ∧ (config.option? "username").isSome then 1 else 0 := by
  rw [optionCredentials]
  cases config.option? "username" with
  | none => simp
  | some username => by_cases hbackend : config.backend = Etcd.backend <;> simp [hbackend]

theorem length_optionToken (config : Config) :
    config.optionToken.length =
      if config.backend = Consul.backend ∧ (config.option? "token").isSome then 1 else 0 := by
  rw [optionToken]
  cases config.option? "token" with
  | none => simp
  | some token => by_cases hbackend : config.backend = Consul.backend <;> simp [hbackend]

theorem Alike.sameButHeaders (h : Alike config config') {r r' : Request}
    (hr : Counterparts config config' r r') : r.SameButHeaders r' := by
  obtain ⟨url, rfl, rfl⟩ := hr
  refine ⟨rfl, ?_, ?_⟩
  · simp only [requestFor, endpointCredentials, List.length_append, length_optionCredentials,
      h.endpoint, h.backend, h.isSome_option?_eq]
  · simp only [requestFor, length_optionToken, h.backend, h.isSome_option?_eq]

end

end Config

namespace Engine

section
variable {w w' : World} {context : Context} {raw raw' : Bytes} {conf conf' : Conf} {s s' : State}

theorem corresponds_prepare (hparse : Conf.parse raw = .ok conf)
    (hparse' : Conf.parse raw' = .ok conf')
    (hsame : Config.SameButSecrets w.environment w'.environment conf conf') :
    Corresponds Eq Config.Alike (prepare w context raw) (prepare w' context raw') :=
  (corresponds_refl (fun _ => rfl) (ContainerId.check context.containerId)).bind fun _ _ _ =>
    Config.corresponds_load hparse hparse' hsame

/-- What is fetched does not depend on secret options. -/
theorem exists_fetch_eq {config config' : Config} (h : Config.Alike config config')
    (hregistry : w.registry = Registry.builtin) (hregistry' : w'.registry = Registry.builtin)
    (hanswers : Network.AnswersAlike (config.Counterparts config') w.network s.requests w'.network
      s'.requests) (id : String) :
    ∃ r sent sent', fetch w config id s.requests = (r, s.requests ++ sent) ∧
      fetch w' config' id s'.requests = (r, s'.requests ++ sent') ∧
      List.Forall₂ (config.Counterparts config') sent sent' := by
  have hconnect := Registry.parallel_connect h.asksAlike h.openErrorsAlike hanswers
  have hkey : config.keyFor id = config'.keyFor id := by
    rw [Config.keyFor, Config.keyFor, h.basePath]
  obtain ⟨x, y, sent, sent', hrun, hrun', hresult, hsent⟩ :=
    hconnect.bind fun store store' sent sent' hstore hsent =>
      hstore.get (config.keyFor id) _ _ _ _ (hanswers.after hsent)
  obtain rfl := hresult.eq
  rw [hkey] at hrun'
  unfold fetch
  simp only [hregistry, hregistry', hrun, hrun']
  cases x with
  | error e => exact ⟨_, sent, sent', rfl, rfl, hsent⟩
  | ok value => exact ⟨_, sent, sent', rfl, rfl, hsent⟩

theorem attach_of_prepare_error {e : Failure} (h : prepare w context raw = .error e) :
    attach w context raw s = (.error e, s) := by
  simp only [attach, h]

/-- **Secret options stay in the headers.**  Let two setups be given the same but for the values of
    the password and of the token, from the same scratch folder and after the same calls, and let
    the services answer alike the requests that the two configurations make for one address.  Then
    both come to the same result or fail with the same error, leave the same scratch folder and make
    the same calls, and their requests are the same but for the values of headers. -/
theorem attach_sameButSecrets (hregistry : w.registry = Registry.builtin)
    (hregistry' : w'.registry = Registry.builtin) (hdelegator : w.delegator = w'.delegator)
    (hdisk : w.disk = w'.disk) (hscratch : s.scratch = s'.scratch) (hcalls : s.calls = s'.calls)
    (hparse : Conf.parse raw = .ok conf) (hparse' : Conf.parse raw' = .ok conf')
    (hsame : Config.SameButSecrets w.environment w'.environment conf conf')
    (hanswers : ∀ config config', prepare w context raw = .ok config →
      prepare w' context raw' = .ok config' →
        Network.AnswersAlike (config.Counterparts config') w.network s.requests w'.network
          s'.requests) :
    ComeToSame s s' (attach w context raw s) (attach w' context raw' s') ∧
      ∃ sent sent', (attach w context raw s).2.requests = s.requests ++ sent ∧
        (attach w' context raw' s').2.requests = s'.requests ++ sent' ∧
        List.Forall₂ Request.SameButHeaders sent sent' := by
  have hprepared : Corresponds Eq Config.Alike (prepare w context raw) (prepare w' context raw') :=
    corresponds_prepare hparse hparse' hsame
  generalize hprepare : prepare w context raw = prepared at hprepared
  generalize hprepare' : prepare w' context raw' = prepared' at hprepared
  cases hprepared with
  | error he =>
    subst he
    rw [attach_of_prepare_error hprepare, attach_of_prepare_error hprepare']
    have hnothing {β : Type} (xs : List β) : xs = xs ++ [] := (List.append_nil xs).symm
    exact ⟨⟨rfl, hscratch, [], hnothing _, hnothing _⟩, [], [], hnothing _, hnothing _, .nil⟩
  | @ok config config' halike =>
    obtain ⟨r, sent, sent', hfetch, hfetch', hsent⟩ :=
      exists_fetch_eq halike hregistry hregistry' (hanswers config config' hprepare hprepare')
        context.containerId
    have hsame : ComeToSame s s' (attach w context raw s) (attach w' context raw' s') :=
      comeToSame_attach hdelegator hdisk hscratch hcalls ⟨config, _, hprepare, hfetch⟩
        ⟨config', _, hprepare', hfetch'⟩
    refine ⟨hsame, sent, sent', ?_, ?_, hsent.imp fun _ _ => halike.sameButHeaders⟩
    · rw [requests_attach, hprepare]
      exact congrArg Prod.snd hfetch
    · rw [requests_attach, hprepare']
      exact congrArg Prod.snd hfetch'

end

/-- A variable that holds the token, and a list that is set up. -/
theorem attach_sameButSecrets_token :
    let raw := utf8 ("\x7b\"storeBackend\":\"consul\",\"uri\":\"h\"," ++
      "\"storeConfig\":\x7b\"token\":\"$\x7bT\x7d\"\x7d\x7d")
    let w (token : String) : World :=
      { answering (utf8 "[\x7b\"type\":\"b\"\x7d]") with environment := fun _ => some (utf8 token) }
    let context : Context := ⟨"a", "", "eth0", "", []⟩
    let start : State := ⟨.missing, [], []⟩
    let run := attach (w "one") context raw start
    let run' := attach (w "two") context raw start
    ComeToSame start start run run' ∧ run.1 = .ok ⟨utf8 "\x7b\x7d"⟩ ∧
      List.Forall₂ Request.SameButHeaders run.2.requests run'.2.requests ∧
      run.2.requests.map (·.token) = [[utf8 "one"], [utf8 "one"]] ∧
      run'.2.requests.map (·.token) = [[utf8 "two"], [utf8 "two"]] := by
  intro raw w context start run run'
  obtain ⟨conf, hparse, hentries⟩ : ∃ conf, Conf.parse raw = .ok conf ∧
      conf.options.entries = [("token", "$\x7bT\x7d")] := by
    have hfound : (Conf.parse raw).toOption.map (·.options.entries) =
        some [("token", "$\x7bT\x7d")] := by decide +kernel
    cases hparse : Conf.parse raw with
    | error e =>
      rw [hparse] at hfound
      cases hfound
    | ok conf =>
      rw [hparse] at hfound
      exact ⟨conf, rfl, Option.some.inj hfound⟩
  have hone : Config.expandOption (w "one").environment "token" "$\x7bT\x7d" = .ok "one" := by
    decide +kernel
  have htwo : Config.expandOption (w "two").environment "token" "$\x7bT\x7d" = .ok "two" := by
    decide +kernel
  have hlegal : Config.IsHeaderText "one" ∧ Config.IsHeaderText "two" := by
    unfold Config.IsHeaderText
    decide +kernel
  have hsame : Config.SameButSecrets (w "one").environment (w "two").environment conf conf := by
    refine ⟨rfl, rfl, rfl, rfl, rfl, fun name => ?_⟩
    by_cases hname : name = "token"
    · have hvalue : conf.options.get? "token" = some "$\x7bT\x7d" := by
        rw [NameMap.get?_eq_some_iff, hentries]
        exact List.mem_singleton_self _
      rw [hname, hvalue]
      refine .some ?_
      rw [Config.ExpandAlike, hone, htwo]
      exact .ok (.inr ⟨.inr ⟨rfl, hlegal.1⟩, .inr ⟨rfl, hlegal.2⟩⟩)
    · have hnone : conf.options.get? name = none := by
        rw [NameMap.get?_eq_none_iff, NameMap.names, hentries]
        simpa using hname
      rw [hnone]
      exact .none
  have hboth : ComeToSame start start run run' ∧ ∃ sent sent',
      run.2.requests = start.requests ++ sent ∧ run'.2.requests = start.requests ++ sent' ∧
        List.Forall₂ Request.SameButHeaders sent sent' :=
    attach_sameButSecrets rfl rfl rfl rfl rfl rfl hparse hparse hsame fun _ _ _ _ _ _ _ _ _ _ => rfl
  obtain ⟨hrun, sent, sent', hsent, hsent', hheaders⟩ := hboth
  have hone' : (run.1, run.2.requests.map (·.token)) =
      (.ok ⟨utf8 "\x7b\x7d"⟩, [[utf8 "one"], [utf8 "one"]]) := by decide +kernel
  have htwo' : run'.2.requests.map (·.token) = [[utf8 "two"], [utf8 "two"]] := by decide +kernel
  refine ⟨hrun, congrArg Prod.fst hone', ?_, congrArg Prod.snd hone', htwo'⟩
  rw [hsent, hsent']
  exact hheaders

end Engine

end NetDelegate
