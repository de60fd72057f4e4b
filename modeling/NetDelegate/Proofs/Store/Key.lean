/-
  NetDelegate/Proofs/Store/Key.lean
  =================================
  **Where the key of a store goes.**  The address of a key has the place of the endpoint, and its
  path goes on behind the path of the endpoint and the prefix of the service
  (`keyUrl_of_not_leadsOut`), with one exception: a first part that becomes `..` when its tabs and
  line ends are dropped takes the last segment of the prefix away (`keyUrl_of_leadsOut`).  The
  parts behind the prefix spell the key exactly where they are literal (`readsBack_iff`).

  `request_within_iff` and `key_read_back` say this of every configuration that can be loaded, of
  the prefixes of etcd and Consul and of the requests that are made for a key.
-/
import NetDelegate.Proofs.Config.Load
import NetDelegate.Proofs.Store.Session
import NetDelegate.Proofs.Url.Prefix

namespace NetDelegate

namespace Store

/-! ### The path of a key -/

/-- A key without the separators at its start. -/
def keyText (key : String) : String :=
  String.ofList (key.toList.dropWhile (· = Config.keySeparator))

/-- A key whose parts are segments as they are: none is `.` or `..`, and none has a tab or a line
    end. -/
def IsLiteralKey (key : String) : Prop := ∀ part ∈ keyParts key, Path.IsLiteral part

instance (key : String) : Decidable (IsLiteralKey key) :=
  inferInstanceAs (Decidable (∀ part ∈ keyParts key, Path.IsLiteral part))

theorem encode_intercalate (pieces : List (List Char)) :
    Utf8.encode (['/'].intercalate pieces) = Path.joined (pieces.map Utf8.encode) := by
  unfold Path.joined
  induction pieces with
  | nil => rfl
  | cons piece pieces ih =>
    cases pieces with
    | nil => simp
    | cons next pieces =>
      have hslash : Utf8.encode ['/'] = [0x2F] := by decide
      rw [List.intercalate_cons_cons, Utf8.encode_append, Utf8.encode_append, ih, hslash,
        List.map_cons, List.map_cons, List.map_cons, List.intercalate_cons_cons]

/-- The parts of a key, joined again. -/
theorem utf8_keyText (key : String) :
    utf8 (keyText key) = Path.joined ((keyParts key).map Utf8.encode) := by
  rw [utf8, keyText, String.toList_ofList, keyParts]
  generalize key.toList.dropWhile (· = Config.keySeparator) = cs
  cases cs with
  | nil => rfl
  | cons c cs =>
    have hsplit : splitWhere (· = Config.keySeparator) (c :: cs) = (c :: cs).splitOn '/' :=
      splitWhere_eq_splitOn '/' (c :: cs)
    simp only [hsplit]
    rw [← encode_intercalate, List.intercalate_splitOn]

section
variable {a b : String} (ha : Path.IsPlain a) (hb : Path.IsPlain b)

include ha hb

theorem keyUrl_path (endpoint : Url) (key : String) :
    (keyUrl endpoint [a, b] key).path =
      Path.extend (Path.root endpoint.path ++ [a, b]) (keyParts key) := by
  rw [← Path.extend_of_isPlain endpoint.path ha hb]
  exact List.foldl_append

/-- The parts of a key go behind the prefix. -/
theorem keyUrl_of_not_leadsOut (endpoint : Url) {key : String}
    (h : ¬Path.LeadsOut (keyParts key)) :
    (keyUrl endpoint [a, b] key).path =
      Path.root endpoint.path ++ [a, b] ++ Path.extension (keyParts key) := by
  have htop : ∃ segment ∈ Path.root endpoint.path ++ [a, b], segment ≠ "" :=
    ⟨a, List.mem_append_right _ List.mem_cons_self, ha.ne_empty⟩
  rw [keyUrl_path ha hb, Path.extend_of_not_leadsOut htop h]

/-- A key that leads out takes the last segment of the prefix away. -/
theorem keyUrl_of_leadsOut (endpoint : Url) {key : String} (h : Path.LeadsOut (keyParts key)) :
    ∃ rest, (keyUrl endpoint [a, b] key).path = Path.root endpoint.path ++ a :: "" :: rest := by
  have hfront : ∃ segment ∈ Path.root endpoint.path ++ [a], segment ≠ "" :=
    ⟨a, List.mem_append_right _ List.mem_cons_self, ha.ne_empty⟩
  obtain ⟨rest, hrest⟩ := Path.extend_of_leadsOut hfront hb.not_drive h
  refine ⟨rest, ?_⟩
  rw [List.append_assoc, List.append_assoc] at hrest
  rw [keyUrl_path ha hb]
  exact hrest

theorem keyUrl_empty (endpoint : Url) :
    (keyUrl endpoint [a, b] "").path = Path.root endpoint.path ++ [a, b] := keyUrl_path ha hb _ _

/-- Literal keys with one path are one key, separators at the start apart. -/
theorem keyText_eq_of_path_eq {endpoint : Url} {key key' : String} (hkey : IsLiteralKey key)
    (hkey' : IsLiteralKey key')
    (h : (keyUrl endpoint [a, b] key).path = (keyUrl endpoint [a, b] key').path) :
    keyText key = keyText key' := by
  rw [keyUrl_of_not_leadsOut ha hb endpoint (Path.not_leadsOut_of_isLiteral hkey),
    keyUrl_of_not_leadsOut ha hb endpoint (Path.not_leadsOut_of_isLiteral hkey')] at h
  have hextension := List.append_cancel_left h
  rw [← utf8_inj, utf8_keyText, utf8_keyText,
    ← (Path.joined_extension_iff (keyParts key)).2 hkey, hextension]
  exact (Path.joined_extension_iff (keyParts key')).2 hkey'

end

theorem isSlashFree_keyUrl {endpoint : Url} (h : Path.IsWritten endpoint.path) (top : List String)
    (key : String) : Path.IsSlashFree (keyUrl endpoint top key).path :=
  Path.isSlashFree_extend h.slashFree.withoutTrailing _

/-! ### Staying within the prefix, and reading the key back -/

section
variable {endpoint : Url} (hendpoint : Path.IsWritten endpoint.path) {a b : String}
  (ha : Path.IsPlain a) (hb : Path.IsPlain b)

include hendpoint ha hb

/-- The address of a key lies where keys belong, unless the key leads out or the path of the
    endpoint is two slashes. -/
theorem isWithin_keyUrl_iff (key : String) :
    Url.IsWithin (Url.apiPath endpoint [a, b]) (Url.pathText (keyUrl endpoint [a, b] key).path) ↔
      endpoint.path ≠ ["", ""] ∧ ¬Path.LeadsOut (keyParts key) := by
  have htop : Path.IsSlashFree (Path.stem endpoint.path ++ [a, b]) :=
    Path.isSlashFree_append.2 ⟨hendpoint.slashFree.stem,
      Path.isSlashFree_cons.2 ⟨ha.slash_notMem, Path.isSlashFree_singleton hb.slash_notMem⟩⟩
  rw [Url.apiPath_eq hendpoint, Url.isWithin_pathText_iff htop (isSlashFree_keyUrl hendpoint _ key)]
  by_cases hslashes : endpoint.path = ["", ""]
  · -- the prefix stands at the top then, not behind an empty segment
    have hhead : ∃ rest, (keyUrl endpoint [a, b] key).path = a :: rest := by
      have hroot : Path.root endpoint.path = [] := by rw [hslashes]; rfl
      by_cases hout : Path.LeadsOut (keyParts key)
      · obtain ⟨rest, hrest⟩ := keyUrl_of_leadsOut ha hb endpoint hout
        exact ⟨"" :: rest, by rw [hrest, hroot]; rfl⟩
      · exact ⟨_, by rw [keyUrl_of_not_leadsOut ha hb endpoint hout, hroot]; rfl⟩
    have hstem : Path.stem endpoint.path = [""] := by rw [hslashes]; rfl
    obtain ⟨rest, hrest⟩ := hhead
    rw [hrest, hstem]
    constructor
    · intro hprefix
      exact absurd (List.cons_prefix_cons.1 hprefix).1.symm ha.ne_empty
    · rintro ⟨hne, -⟩
      exact absurd hslashes hne
  · rw [Path.stem_eq_root hendpoint.ne_nil hslashes]
    by_cases hout : Path.LeadsOut (keyParts key)
    · obtain ⟨rest, hrest⟩ := keyUrl_of_leadsOut ha hb endpoint hout
      rw [hrest]
      constructor
      · intro hprefix
        have htail := (List.prefix_append_right_inj _).1 hprefix
        have hlast := (List.cons_prefix_cons.1 (List.cons_prefix_cons.1 htail).2).1
        exact absurd hlast hb.ne_empty
      · rintro ⟨-, hnot⟩
        exact absurd hout hnot
    · rw [keyUrl_of_not_leadsOut ha hb endpoint hout]
      constructor
      · intro _
        exact ⟨hslashes, hout⟩
      · intro _
        exact List.prefix_append _ _

/-- What a key adds to the address without a key spells the key, if and only if the key is
    literal. -/
theorem readsBack_iff (key : String) :
    (∃ added,
      Url.Adds (Url.pathText (keyUrl endpoint [a, b] "").path) added
        (Url.pathText (keyUrl endpoint [a, b] key).path) ∧
      Url.readAdded added = utf8 (keyText key)) ↔ IsLiteralKey key := by
  have hfree := isSlashFree_keyUrl hendpoint [a, b] key
  have hadds := Url.adds_pathText_iff (isSlashFree_keyUrl hendpoint [a, b] "") hfree
  rw [keyUrl_empty ha hb] at hadds ⊢
  rw [utf8_keyText]
  constructor
  · rintro ⟨added, hadded, hread⟩
    obtain ⟨rest, hpath, rfl⟩ := (hadds added).1 hadded
    have hout : ¬Path.LeadsOut (keyParts key) := by
      intro hout
      obtain ⟨rest', hrest⟩ := keyUrl_of_leadsOut ha hb endpoint hout
      rw [hrest, List.append_assoc] at hpath
      have htail := List.append_cancel_left hpath
      have hlast : "" = b := (List.cons.inj (List.cons.inj htail).2).1
      exact hb.ne_empty hlast.symm
    rw [keyUrl_of_not_leadsOut ha hb endpoint hout] at hpath hfree
    obtain rfl := List.append_cancel_left hpath
    rw [Url.readAdded_pathText (Path.isSlashFree_append.1 hfree).2] at hread
    exact (Path.joined_extension_iff (keyParts key)).1 hread
  · intro hliteral
    have hpath := keyUrl_of_not_leadsOut ha hb endpoint (Path.not_leadsOut_of_isLiteral hliteral)
    refine ⟨Url.pathText (Path.extension (keyParts key)), (hadds _).2 ⟨_, hpath, rfl⟩, ?_⟩
    rw [hpath] at hfree
    rw [Url.readAdded_pathText (Path.isSlashFree_append.1 hfree).2]
    exact (Path.joined_extension_iff (keyParts key)).2 hliteral

end

/-! ### Etcd and Consul -/

/-- The prefixes behind which keys go: that of etcd and that of Consul. -/
def keyTops : List (List String) := [["v2", "keys"], ["v1", "kv"]]

theorem forall_keyTops {P : List String → Prop}
    (h : ∀ {a b : String}, Path.IsPlain a → Path.IsPlain b → P [a, b]) : ∀ top ∈ keyTops, P top := by
  have hv2 : Path.IsPlain "v2" := ⟨by decide, by decide, by decide, by decide⟩
  have hkeys : Path.IsPlain "keys" := ⟨by decide, by decide, by decide, by decide⟩
  have hv1 : Path.IsPlain "v1" := ⟨by decide, by decide, by decide, by decide⟩
  have hkv : Path.IsPlain "kv" := ⟨by decide, by decide, by decide, by decide⟩
  intro top htop
  simp only [keyTops, List.mem_cons, List.not_mem_nil, or_false] at htop
  rcases htop with rfl | rfl
  · exact h hv2 hkeys
  · exact h hv1 hkv

end Store

/-- An address as the service sees it. -/
def Url.asked (u : Url) : Url := u.withoutCredentials.withoutFragment

/-- The session asks for the address and nothing else, if it asks at all; the credentials of the
    address go along in the first header value. -/
def Session.Fetches {α : Type} (session : Session α) (url : Url) : Prop :=
  ∃ request, session.Asks request ∧ request.url = url.asked ∧
    ((Draft.credentials? url).map fun c => Draft.basic c.1 c.2).toList <+: request.authorization

theorem Session.fetches_of_asks {α : Type} {session : Session α} {draft : Draft}
    (h : session.Asks draft.prepared.request) : session.Fetches draft.url := by
  refine ⟨_, h, ?_, ?_⟩
  · rw [draft.request_prepared]
    rfl
  · rw [draft.request_prepared]
    exact List.prefix_append _ _

theorem Etcd.fetches_get (config : Config) (key : String) :
    (Etcd.get config key).Fetches (Etcd.keyUrl config key) :=
  Session.fetches_of_asks (Etcd.asks_get config key)

theorem Consul.fetches_get (config : Config) (key : String) :
    (Consul.get config key).Fetches (Consul.keyUrl config key) :=
  Session.fetches_of_asks (Consul.asks_get config key)

namespace Store

theorem samePlace_keyUrl (endpoint : Url) (top : List String) (key : String) :
    (keyUrl endpoint top key).SamePlace endpoint := ⟨rfl, rfl, rfl, rfl, rfl⟩

/-- **Requests and the prefix of the service.**  For every configuration that is loaded and every
    key, the address that is asked has the place of the endpoint, etcd's its query too.  Its path
    lies where the keys of the service belong unless the key leads out, or the path of the endpoint
    is two slashes. -/
theorem request_within_iff {env : Environment} {text : Bytes} {config : Config}
    (hload : Config.load env text = .ok config) (key : String) :
    let endpoint := config.endpoint
    let stays := endpoint.path ≠ ["", ""] ∧ ¬Path.LeadsOut (keyParts key)
    (∀ top ∈ keyTops,
      (keyUrl endpoint top key).SamePlace endpoint ∧
      (keyUrl endpoint top key).query = endpoint.query ∧
      (Url.IsWithin (Url.apiPath endpoint top) (Url.pathText (keyUrl endpoint top key).path) ↔
        stays)) ∧
    ((Etcd.get config key).Fetches (Etcd.keyUrl config key) ∧
      (Etcd.keyUrl config key).SamePlace endpoint ∧
      (Etcd.keyUrl config key).query = endpoint.query ∧
      (Url.IsWithin (Url.apiPath endpoint ["v2", "keys"])
        (Url.pathText (Etcd.keyUrl config key).path) ↔ stays)) ∧
    ((Consul.get config key).Fetches (Consul.keyUrl config key) ∧
      (Consul.keyUrl config key).SamePlace endpoint ∧
      (Url.IsWithin (Url.apiPath endpoint ["v1", "kv"])
        (Url.pathText (Consul.keyUrl config key).path) ↔ stays)) := by
  intro endpoint stays
  have hwritten := Config.isWritten_endpoint hload
  have hwithin : ∀ top ∈ keyTops,
      (Url.IsWithin (Url.apiPath endpoint top) (Url.pathText (keyUrl endpoint top key).path) ↔
        stays) := forall_keyTops fun ha hb => isWithin_keyUrl_iff hwritten ha hb key
  refine ⟨fun top htop => ⟨samePlace_keyUrl endpoint top key, rfl, hwithin top htop⟩, ?_, ?_⟩
  · exact ⟨Etcd.fetches_get config key, samePlace_keyUrl endpoint _ key, rfl,
      hwithin ["v2", "keys"] List.mem_cons_self⟩
  · exact ⟨Consul.fetches_get config key, ⟨rfl, rfl, rfl, rfl, rfl⟩,
      hwithin ["v1", "kv"] (List.mem_cons_of_mem _ List.mem_cons_self)⟩

/-- A configuration with an etcd store and the given text for its key prefix. -/
def etcdText (basePath : String) : Bytes :=
  utf8 ("\x7b\"storeBackend\":\"etcd\",\"uri\":\"h:1\",\"basePath\":\"" ++ basePath ++ "\"\x7d")

/-- The endpoint that such a configuration has. -/
def plainEndpoint : Url := ⟨.http, "", "", .domain "h", some 1, [""], none, none⟩

/-- A key with dots, escapes and marks, which stays where keys belong. -/
theorem request_within_etcd : ∃ config,
    Config.load (fun _ => none) (etcdText "/net/") = .ok config ∧
    Url.IsWithin "/v2/keys".toList
      (Url.pathText (Etcd.keyUrl config "/net/../%2e%2e?#/").path) := by
  obtain ⟨config, hload, hendpoint⟩ : ∃ config,
      Config.load (fun _ => none) (etcdText "/net/") = .ok config ∧
        config.endpoint = plainEndpoint := Config.exists_load_of_map (by decide +kernel)
  refine ⟨config, hload, ?_⟩
  have hwithin := (request_within_iff hload "/net/../%2e%2e?#/").2.1.2.2.2
  rw [hendpoint] at hwithin
  exact hwithin.2 ⟨by decide, by decide⟩

/-- With a line end between two dots in the key prefix, the request of a container goes to an
    address elsewhere. -/
theorem request_not_within : ∃ config,
    Config.load (fun _ => none) (etcdText ".\\n.") = .ok config ∧
    (Etcd.get config (config.keyFor "c1") (fun _ _ => .broken) []).2 =
      [⟨{ plainEndpoint with path := ["v2", "", "c1"] }, [], []⟩] ∧
    ¬Url.IsWithin (Url.apiPath config.endpoint ["v2", "keys"])
      (Url.pathText (Etcd.keyUrl config (config.keyFor "c1")).path) := by
  obtain ⟨config, hload, hfound⟩ : ∃ config,
      Config.load (fun _ => none) (etcdText ".\\n.") = .ok config ∧
        (config.endpoint, (Etcd.keyUrl config (config.keyFor "c1")).path,
          (Etcd.get config (config.keyFor "c1") (fun _ _ => .broken) []).2) =
          (plainEndpoint, ["v2", "", "c1"],
            [⟨{ plainEndpoint with path := ["v2", "", "c1"] }, [], []⟩]) :=
    Config.exists_load_of_map (by decide +kernel)
  simp only [Prod.mk.injEq] at hfound
  obtain ⟨hendpoint, hpath, hlog⟩ := hfound
  refine ⟨config, hload, hlog, ?_⟩
  rw [hendpoint, hpath]
  rintro ⟨added, htext, -⟩
  have hprefix : Url.apiPath plainEndpoint ["v2", "keys"] <+: Url.pathText ["v2", "", "c1"] :=
    ⟨added, htext.symm⟩
  exact absurd hprefix (by decide)

/-- **The key that is asked.**  For every configuration that is loaded and every key, what the key
    adds to the path spells the key, separators at its start apart, if and only if the key is
    literal; and behind an endpoint whose path is not two slashes, it adds that to the path under
    which keys belong.  So different literal keys are asked for at different addresses. -/
theorem key_read_back {env : Environment} {text : Bytes} {config : Config}
    (hload : Config.load env text = .ok config) :
    let endpoint := config.endpoint
    (∀ top ∈ keyTops,
      (endpoint.path ≠ ["", ""] →
        Url.pathText (keyUrl endpoint top "").path = Url.apiPath endpoint top) ∧
      ∀ key,
        (∃ added,
          Url.Adds (Url.pathText (keyUrl endpoint top "").path) added
            (Url.pathText (keyUrl endpoint top key).path) ∧
          Url.readAdded added = utf8 (keyText key)) ↔ IsLiteralKey key) ∧
    (∀ key, (Etcd.get config key).Fetches (Etcd.keyUrl config key) ∧
      (Consul.get config key).Fetches (Consul.keyUrl config key)) ∧
    ∀ key key', IsLiteralKey key → IsLiteralKey key' → keyText key ≠ keyText key' →
      (∀ top ∈ keyTops, (keyUrl endpoint top key).text ≠ (keyUrl endpoint top key').text) ∧
      (Etcd.keyUrl config key).asked.text ≠ (Etcd.keyUrl config key').asked.text ∧
      (Consul.keyUrl config key).asked.text ≠ (Consul.keyUrl config key').asked.text := by
  intro endpoint
  have hwritten := Config.isWritten_endpoint hload
  refine ⟨forall_keyTops fun ha hb => ⟨fun hslashes => ?_, readsBack_iff hwritten ha hb⟩,
    fun key => ⟨Etcd.fetches_get config key, Consul.fetches_get config key⟩, ?_⟩
  · rw [keyUrl_empty ha hb, Url.apiPath_eq hwritten,
      Path.stem_eq_root hwritten.ne_nil hslashes]
  · intro key key' hkey hkey' hne
    have hpath : ∀ top ∈ keyTops, ∀ u : Url,
        ({ u with path := (keyUrl endpoint top key).path } : Url).text ≠
          ({ u with path := (keyUrl endpoint top key').path } : Url).text := by
      refine forall_keyTops fun ha hb u htext => hne ?_
      exact keyText_eq_of_path_eq ha hb hkey hkey' (Url.path_eq_of_text_eq
        (isSlashFree_keyUrl hwritten _ key) (isSlashFree_keyUrl hwritten _ key') htext)
    refine ⟨fun top htop => hpath top htop endpoint, ?_, ?_⟩
    · exact hpath ["v2", "keys"] List.mem_cons_self (Etcd.keyUrl config "").asked
    · exact hpath ["v1", "kv"] (List.mem_cons_of_mem _ List.mem_cons_self)
        (Consul.keyUrl config "").asked

/-- Two keys, one of which has a character that must be escaped. -/
theorem key_read_back_etcd : ∃ config,
    Config.load (fun _ => none) (etcdText "/net/") = .ok config ∧
    (∃ added,
      Url.Adds "/v2/keys".toList added (Url.pathText (Etcd.keyUrl config "//a b/%c").path) ∧
      Url.readAdded added = utf8 "a b/%c") ∧
    (Etcd.keyUrl config "a b/%c").asked.text ≠ (Etcd.keyUrl config "a b/%25c").asked.text := by
  obtain ⟨config, hload, hendpoint⟩ : ∃ config,
      Config.load (fun _ => none) (etcdText "/net/") = .ok config ∧
        config.endpoint = plainEndpoint := Config.exists_load_of_map (by decide +kernel)
  obtain ⟨hread, -, hdiffer⟩ := key_read_back hload
  refine ⟨config, hload, ?_, (hdiffer _ _ (by decide) (by decide) (by decide)).2.1⟩
  obtain ⟨hplace, hback⟩ := hread ["v2", "keys"] List.mem_cons_self
  rw [hendpoint] at hplace hback
  have hfound := (hback "//a b/%c").2 (by decide)
  rw [hplace (by decide)] at hfound
  rw [Etcd.keyUrl, hendpoint]
  exact hfound

/-- A tab in a key is not asked for: the address is that of another key. -/
theorem key_not_read_back : ∃ config,
    Config.load (fun _ => none) (etcdText "/net/") = .ok config ∧
    keyText "a\tb" ≠ keyText "ab" ∧
    (Etcd.get config "a\tb" (fun _ _ => .broken) []).2 =
      (Etcd.get config "ab" (fun _ _ => .broken) []).2 ∧
    (∀ added, Url.pathText (Etcd.keyUrl config "a\tb").path = "/v2/keys".toList ++ added →
      Url.readAdded added ≠ utf8 (keyText "a\tb")) ∧
    ∀ added, Url.pathText (Etcd.keyUrl config "a/./b").path = "/v2/keys".toList ++ added →
      Url.readAdded added ≠ utf8 (keyText "a/./b") := by
  obtain ⟨config, hload, hfound⟩ : ∃ config,
      Config.load (fun _ => none) (etcdText "/net/") = .ok config ∧
        (Url.pathText (Etcd.keyUrl config "a\tb").path,
          Url.pathText (Etcd.keyUrl config "a/./b").path,
          (Etcd.get config "a\tb" (fun _ _ => .broken) []).2,
          (Etcd.get config "ab" (fun _ _ => .broken) []).2) =
          ("/v2/keys".toList ++ "/ab".toList, "/v2/keys".toList ++ "/a/b".toList,
            [⟨{ plainEndpoint with path := ["v2", "keys", "ab"] }, [], []⟩],
            [⟨{ plainEndpoint with path := ["v2", "keys", "ab"] }, [], []⟩]) :=
    Config.exists_load_of_map (by decide +kernel)
  simp only [Prod.mk.injEq] at hfound
  obtain ⟨htab, hdot, hlog, hlog'⟩ := hfound
  refine ⟨config, hload, by decide, by rw [hlog, hlog'], ?_, ?_⟩
  · intro added hadded
    rw [htab] at hadded
    obtain rfl : added = "/ab".toList := (List.append_cancel_left hadded).symm
    decide
  · intro added hadded
    rw [hdot] at hadded
    obtain rfl : added = "/a/b".toList := (List.append_cancel_left hadded).symm
    decide

end Store

end NetDelegate
