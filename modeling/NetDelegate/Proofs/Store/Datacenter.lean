/-
  NetDelegate/Proofs/Store/Datacenter.lean
  ========================================
  **The query of a request to Consul.**  It has the pairs that the query of the endpoint has, then
  the wish for the raw form, and then the datacenter if there is one, as the option gives it
  (`Consul.pairs_query_get`).
-/
import NetDelegate.Proofs.Config.Load
import NetDelegate.Proofs.Store.Session
import NetDelegate.Proofs.Url.Form

namespace NetDelegate

namespace Consul

theorem pairs_query (config : Config) :
    Form.pairs (query config) = Form.pairs? config.endpoint.query ++
      ("raw", "") :: (config.option? "datacenter").toList.map fun dc => ("dc", dc) := by
  have hraw : Form.pairs (Form.addName config.endpoint.query "raw") =
      Form.pairs? config.endpoint.query ++ [("raw", "")] :=
    Form.pairs_addName config.endpoint.query (by decide)
  unfold query
  cases config.option? "datacenter" with
  | none => exact hraw
  | some dc =>
    calc Form.pairs (Form.addPair (some (Form.addName config.endpoint.query "raw")) "dc" dc)
      _ = Form.pairs (Form.addName config.endpoint.query "raw") ++ [("dc", dc)] :=
        Form.pairs_addPair _ "dc" dc
      _ = Form.pairs? config.endpoint.query ++ ("raw", "") :: [("dc", dc)] := by
        rw [hraw, List.append_assoc, List.singleton_append]

/-- A value is asked for with its request, unless the request cannot be made or no service is
    reached. -/
theorem log_get {config : Config} {key : String}
    (hmade : (draft config (keyUrl config key)).CanBeMade) {net : Network} {log : List Request}
    (hreached : (net log (draft config (keyUrl config key)).prepared.request).isReached = true) :
    (get config key net log).2 = log ++ [(draft config (keyUrl config key)).prepared.request] := by
  rw [get_eq]
  refine (Session.snd_bind_pure (Store.fetch (storeError key) (draft config (keyUrl config key)))
    (fun answer => classify key answer.1 answer.2) net log).trans ?_
  rw [Store.snd_fetch, Draft.send_of_canBeMade hmade]
  exact if_pos hreached

/-- **The datacenter arrives intact.**  For every configuration and every key, one request is made
    or none; read as a form, its query has the pairs of the endpoint's own query, then `raw` without
    a value, and then the datacenter if and only if the option is set, whatever text that is. -/
theorem pairs_query_get (config : Config) (key : String) :
    ∃ request,
      (get config key).Asks request ∧
      ((draft config (keyUrl config key)).CanBeMade → ∀ net log,
        (net log request).isReached = true → (get config key net log).2 = log ++ [request]) ∧
      ∃ query, request.url.query = some query ∧
        Form.pairs query = Form.pairs? config.endpoint.query ++
          ("raw", "") :: (config.option? "datacenter").toList.map fun dc => ("dc", dc) := by
  refine ⟨_, asks_get config key, fun hmade net log => log_get hmade, query config, ?_,
    pairs_query config⟩
  rw [Draft.request_prepared]
  rfl

/-- An endpoint with a query, and a datacenter with all the marks of a form. -/
theorem pairs_query_get_marks : ∃ config,
    Config.load (fun _ => none)
      (utf8 ("\x7b\"storeBackend\":\"consul\",\"uri\":\"h:1/p?x=1&y\"," ++
        "\"storeConfig\":\x7b\"datacenter\":\"a b+c&d=%2Bé\"\x7d\x7d")) = .ok config ∧
    ∃ request query, (get config "k" (fun _ _ => .broken) []).2 = [request] ∧
      request.url.query = some query ∧
      Form.pairs query = [("x", "1"), ("y", ""), ("raw", ""), ("dc", "a b+c&d=%2Bé")] := by
  obtain ⟨config, hload, hfound⟩ : ∃ config,
      Config.load (fun _ => none)
        (utf8 ("\x7b\"storeBackend\":\"consul\",\"uri\":\"h:1/p?x=1&y\"," ++
          "\"storeConfig\":\x7b\"datacenter\":\"a b+c&d=%2Bé\"\x7d\x7d")) = .ok config ∧
        (config.endpoint.query, config.option? "datacenter", (draft config (keyUrl config "k")).token,
          Draft.isSendable (draft config (keyUrl config "k")).prepared.url) =
          (some "x=1&y", some "a b+c&d=%2Bé", none, true) :=
    Config.exists_load_of_map (by decide +kernel)
  simp only [Prod.mk.injEq] at hfound
  obtain ⟨hquery, hdatacenter, htoken, hsendable⟩ := hfound
  obtain ⟨request, -, hlog, query, hasked, hpairs⟩ := pairs_query_get config "k"
  have hmade : (draft config (keyUrl config "k")).CanBeMade := by
    refine ⟨?_, hsendable⟩
    rw [htoken]
    exact fun token h => absurd h (Option.not_mem_none token)
  refine ⟨config, hload, request, query, hlog hmade _ [] rfl, hasked, ?_⟩
  rw [hpairs, hquery, hdatacenter]
  decide +kernel

end Consul

end NetDelegate
