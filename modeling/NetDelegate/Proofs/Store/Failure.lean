/-
  NetDelegate/Proofs/Store/Failure.lean
  =====================================
  **Errors of the stores of this library.**  `Store.IsOpenError` and `Store.IsReadError` list all
  errors that opening a connection and getting a value can end with, whatever the network does.  So
  opening a connection fails as a matter of connecting (`Registry.category_of_connect_error`),
  getting a value fails because there is none or because of the store
  (`Registry.isOfReading_of_get`), and no address is ever found to be one that a path cannot be
  added to (`Registry.ne_baseError_of_connect`, `Registry.ne_badKey_of_get`).
-/
import NetDelegate.Proofs.Store.Session

namespace NetDelegate

/-! ### Opening a connection -/

/-- The errors that opening a connection ends with. -/
inductive Store.IsOpenError (config : Config) : Error → Prop
  | unknown : IsOpenError config (.unsupportedBackend config.backend)
  | timedOut : IsOpenError config (.connectTimeout config.endpoint.text config.timeout)
  | unsent (fault : SendFault) :
      IsOpenError config (.connectFailed config.backend config.endpoint.text fault.text)
  | refused (status : Nat) :
      IsOpenError config (.connectFailed config.backend config.endpoint.text
        ("handshake returned HTTP " ++ Status.text status))

theorem Store.isOpenError_connectError (config : Config) (fault : SendFault) :
    IsOpenError config (connectError config fault) := by
  cases fault with
  | badHeader => exact .unsent .badHeader
  | badAddress url => exact .unsent (.badAddress url)
  | failed url => exact .unsent (.failed url)
  | timedOut url => exact .timedOut

theorem Store.isOpenError_of_probe {config : Config} {draft : Draft} {net : Network}
    {log : List Request} {e : Error} (h : (probe config draft net log).1 = .error e) :
    IsOpenError config e := by
  unfold probe at h
  split at h
  · cases h
    exact isOpenError_connectError _ _
  · split at h
    · cases h
    · cases h
      exact .refused _

theorem Store.isOpenError_of_open {config : Config} {draft : Draft} {store : Store}
    {net : Network} {log : List Request} {e : Error}
    (h : ((do Store.probe config draft; return store : Session Store) net log).1 = .error e) :
    IsOpenError config e :=
  isOpenError_of_probe (probe_of_open_error h)

theorem Registry.isOpenError_of_connect {config : Config} {net : Network} {log : List Request}
    {e : Error} (h : (Registry.builtin.connect config net log).1 = .error e) :
    Store.IsOpenError config e := by
  rw [Registry.connect_builtin, Consul.connect_eq, Etcd.connect_eq] at h
  split at h
  · exact Store.isOpenError_of_open h
  · split at h
    · exact Store.isOpenError_of_open h
    · cases h
      exact .unknown

theorem Store.IsOpenError.category_eq {config : Config} {e : Error} (h : IsOpenError config e) :
    e.category = .connect := by
  cases h with
  | unknown => rfl
  | timedOut => rfl
  | unsent fault => rfl
  | refused status => rfl

theorem Registry.category_of_connect_error {config : Config} {net : Network} {log : List Request}
    {e : Error} (h : (Registry.builtin.connect config net log).1 = .error e) :
    e.category = .connect :=
  (isOpenError_of_connect h).category_eq

/-! ### Getting a value -/

/-- The errors that a whole answer is classified as. -/
inductive Store.IsAnswerError (backend key : String) : Error → Prop
  | missing : IsAnswerError backend key (.keyNotFound key)
  | refused (status : Nat) (body : Bytes) : IsAnswerError backend key
      (.storeFailed backend key ("HTTP " ++ Status.text status ++ ": " ++ body.textLossy))
  | fault (f : Etcd.Fault) : IsAnswerError backend key (.storeFailed backend key f.text)
  | unexpected (cause : Json.Error) : IsAnswerError backend key
      (.storeFailed backend key ("unexpected response: " ++ cause.text))
  | directory : IsAnswerError backend key (.storeFailed backend key "key is a directory")
  | noValue : IsAnswerError backend key (.storeFailed backend key "node has no value")

/-- The errors that getting a value ends with. -/
inductive Store.IsReadError (backend key : String) : Error → Prop
  | unsent (fault : SendFault) : IsReadError backend key (.storeFailed backend key fault.text)
  | brokenOff : IsReadError backend key (.storeFailed backend key bodyFault)
  | answered {e : Error} (h : IsAnswerError backend key e) : IsReadError backend key e

theorem Etcd.isAnswerError_of_classify {key : String} {status : Nat} {body : Bytes} {e : Error}
    (h : classify key status body = .error e) : Store.IsAnswerError backend key e := by
  unfold classify at h
  split at h
  · split at h
    · next f hfault =>
      split at h
      · cases h
        exact .fault f
      · cases h
        exact .missing
    · cases h
      exact .missing
  · split at h
    · split at h
      · next f hfault =>
        cases h
        exact .fault f
      · cases h
        exact .refused _ _
    · split at h
      · next cause hnode =>
        cases h
        exact .unexpected cause
      · split at h
        · cases h
          exact .directory
        · split at h
          · cases h
          · cases h
            exact .noValue

theorem Consul.isAnswerError_of_classify {key : String} {status : Nat} {body : Bytes} {e : Error}
    (h : classify key status body = .error e) : Store.IsAnswerError backend key e := by
  unfold classify at h
  split at h
  · cases h
    exact .missing
  · split at h
    · cases h
    · cases h
      exact .refused _ _

theorem Etcd.isReadError_of_classify {key : String} {status : Nat} {body : Bytes} {e : Error}
    (h : classify key status body = .error e) : Store.IsReadError backend key e :=
  .answered (isAnswerError_of_classify h)

theorem Consul.isReadError_of_classify {key : String} {status : Nat} {body : Bytes} {e : Error}
    (h : classify key status body = .error e) : Store.IsReadError backend key e :=
  .answered (isAnswerError_of_classify h)

/-- Asking for a value and classifying the answer. -/
theorem Store.isReadError_of_get {backend key : String} {draft : Draft}
    {classify : Nat × Bytes → Except Error Bytes}
    (hclassify : ∀ {answer e}, classify answer = .error e → IsReadError backend key e)
    {net : Network} {log : List Request} {e : Error}
    (h : ((Store.fetch (.storeFailed backend key) draft >>= fun answer =>
      Session.pure (classify answer)) net log).1 = .error e) : IsReadError backend key e := by
  rcases Store.get_cases (.storeFailed backend key) draft classify net log with
    ⟨status, body, -, hget⟩ | ⟨-, ⟨fault, hget⟩ | hget⟩
  · exact hclassify (hget.symm.trans h)
  · cases hget.symm.trans h
    exact .unsent fault
  · cases hget.symm.trans h
    exact .brokenOff

/-- How the messages of answers begin. -/
def Store.answerBeginnings : List (List Char) :=
  [['H', 'T'], ['e', 't'], ['u', 'n'], ['k', 'e'], ['n', 'o']]

theorem Store.IsAnswerError.eq_or_exists {backend key : String} {e : Error}
    (h : IsAnswerError backend key e) :
    e = .keyNotFound key ∨ ∃ message, e = .storeFailed backend key message ∧
      message.toList.take 2 ∈ answerBeginnings := by
  cases h with
  | missing => exact .inl rfl
  | refused status body =>
    refine .inr ⟨_, rfl, ?_⟩
    rw [String.toList_append, String.toList_append, String.toList_append]
    exact .head _
  | fault f =>
    refine .inr ⟨_, rfl, ?_⟩
    rw [Etcd.Fault.text, String.toList_append, String.toList_append, String.toList_append]
    exact .tail _ (.head _)
  | unexpected cause =>
    refine .inr ⟨_, rfl, ?_⟩
    rw [String.toList_append]
    exact .tail _ (.tail _ (.head _))
  | directory => exact .inr ⟨_, rfl, by decide⟩
  | noValue => exact .inr ⟨_, rfl, by decide⟩

/-- No answer has a message that begins in another way. -/
theorem Store.IsAnswerError.ne_of_take {backend key message : String} {e : Error}
    (h : IsAnswerError backend key e) (hmessage : message.toList.take 2 ∉ answerBeginnings)
    (backend' key' : String) : e ≠ .storeFailed backend' key' message := by
  rcases h.eq_or_exists with rfl | ⟨m, rfl, hm⟩
  · exact nofun
  · intro heq
    rw [(Error.storeFailed.inj heq).2.2] at hm
    exact hmessage hm

theorem Store.IsReadError.eq_or_exists {backend key : String} {e : Error}
    (h : IsReadError backend key e) :
    e = .keyNotFound key ∨ ∃ message, e = .storeFailed backend key message := by
  cases h with
  | unsent fault => exact .inr ⟨_, rfl⟩
  | brokenOff => exact .inr ⟨_, rfl⟩
  | answered h => exact h.eq_or_exists.imp_right fun ⟨message, he, _⟩ => ⟨message, he⟩

theorem Registry.isReadError_of_get {config : Config} {net : Network} {log : List Request}
    {store : Store} (hstore : (Registry.builtin.connect config net log).1 = .ok store)
    {key : String} {net' : Network} {log' : List Request} {e : Error}
    (h : (store.get key net' log').1 = .error e) :
    Store.IsReadError store.backend key e := by
  rcases store_of_connect_builtin hstore with ⟨-, rfl⟩ | ⟨-, rfl⟩
  · change (Consul.get config key net' log').1 = .error e at h
    rw [Consul.get_eq] at h
    exact Store.isReadError_of_get Consul.isReadError_of_classify h
  · change (Etcd.get config key net' log').1 = .error e at h
    rw [Etcd.get_eq] at h
    exact Store.isReadError_of_get Etcd.isReadError_of_classify h

/-- The error says that there is no value, or that the store failed. -/
def Error.IsOfReading (e : Error) : Prop := e.category = .notFound ∨ e.category = .store

theorem Store.IsReadError.isOfReading {backend key : String} {e : Error}
    (h : IsReadError backend key e) : e.IsOfReading := by
  rcases h.eq_or_exists with rfl | ⟨message, rfl⟩
  · exact .inl rfl
  · exact .inr rfl

theorem Registry.isOfReading_of_get {config : Config} {net : Network} {log : List Request}
    {store : Store} (hstore : (Registry.builtin.connect config net log).1 = .ok store)
    {key : String} {net' : Network} {log' : List Request} {e : Error}
    (h : (store.get key net' log').1 = .error e) : e.IsOfReading :=
  (isReadError_of_get hstore h).isOfReading

/-! ### Addresses that cannot be added to -/

/-- Texts that begin differently are different. -/
theorem ne_of_take {s t : String} (n : Nat) (h : s.toList.take n ≠ t.toList.take n) : s ≠ t := by
  rintro rfl
  exact h rfl

/-- The beginning of the wording of a fault. -/
theorem SendFault.take_text (fault : SendFault) :
    fault.text.toList.take 2 = ['b', 'u'] ∨ fault.text.toList.take 2 = ['e', 'r'] := by
  have hsending : ∀ url : String,
      ("error sending request for url (" ++ url ++ ")").toList.take 2 = ['e', 'r'] := by
    intro url
    rw [String.toList_append, String.toList_append]
    rfl
  cases fault with
  | badHeader => exact .inl (by decide)
  | badAddress url =>
    left
    change ("builder error for url (" ++ url ++ ")").toList.take 2 = ['b', 'u']
    rw [String.toList_append, String.toList_append]
    rfl
  | failed url => exact .inr (hsending url)
  | timedOut url => exact .inr (hsending url)

theorem Store.IsOpenError.ne_baseError {config : Config} {e : Error} (h : IsOpenError config e)
    (backend endpoint : String) :
    e ≠ .connectFailed backend endpoint "endpoint URL cannot be a base" := by
  cases h with
  | unknown => exact nofun
  | timedOut => exact nofun
  | unsent fault =>
    intro heq
    refine ne_of_take 2 ?_ (Error.connectFailed.inj heq).2.2
    rcases fault.take_text with htake | htake
    · rw [htake]
      decide
    · rw [htake]
      decide
  | refused status =>
    intro heq
    refine ne_of_take 1 ?_ (Error.connectFailed.inj heq).2.2
    rw [String.toList_append]
    exact nofun

theorem Registry.ne_baseError_of_connect (config : Config) (net : Network) (log : List Request)
    (backend endpoint : String) :
    (Registry.builtin.connect config net log).1 ≠
      .error (.connectFailed backend endpoint "endpoint URL cannot be a base") := fun h =>
  (isOpenError_of_connect h).ne_baseError backend endpoint rfl

theorem Store.IsReadError.ne_badKey {backend key : String} {e : Error}
    (h : IsReadError backend key e) (backend' key' : String) :
    e ≠ .storeFailed backend' key' "invalid key URL" := by
  cases h with
  | unsent fault =>
    intro heq
    refine ne_of_take 2 ?_ (Error.storeFailed.inj heq).2.2
    rcases fault.take_text with htake | htake
    · rw [htake]
      decide
    · rw [htake]
      decide
  | brokenOff =>
    intro heq
    exact absurd (Error.storeFailed.inj heq).2.2 (by decide)
  | answered h => exact h.ne_of_take (by decide) backend' key'

theorem Registry.ne_badKey_of_get {config : Config} {net : Network} {log : List Request}
    {store : Store} (hstore : (Registry.builtin.connect config net log).1 = .ok store)
    (key : String) (net' : Network) (log' : List Request) (backend' key' : String) :
    (store.get key net' log').1 ≠ .error (.storeFailed backend' key' "invalid key URL") := fun h =>
  (isReadError_of_get hstore h).ne_badKey backend' key' rfl

end NetDelegate
