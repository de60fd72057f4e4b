/-
  NetDelegate/Store/Consul.lean
  =============================
  **The Consul store.**  A value is asked for in raw form, so the body of the answer is the value.
  The token option goes along in a header, the datacenter option in the query.
-/
import NetDelegate.Store.Basic
import NetDelegate.Url.Form

namespace NetDelegate.Consul

/-- The name of the store. -/
def backend : String := "consul"

/-- The request for an address. -/
def draft (config : Config) (url : Url) : Draft where
  url := url
  authorization := []
  token := config.option? "token"

/-- The query of a key: behind that of the endpoint the wish for the raw form, and the
    datacenter, if there is one. -/
def query (config : Config) : String :=
  let q := Form.addName config.endpoint.query "raw"
  match config.option? "datacenter" with
  | none => q
  | some dc => Form.addPair (some q) "dc" dc

/-- The address of a key. -/
def keyUrl (config : Config) (key : String) : Url :=
  { Store.keyUrl config.endpoint ["v1", "kv"] key with query := some (query config) }

/-- An error at a key. -/
def storeError (key message : String) : Error := .storeFailed backend key message

/-- The value that an answer gives. -/
def classify (key : String) (status : Nat) (body : Bytes) : Except Error Bytes :=
  if status = Status.notFound then .error (.keyNotFound key)
  else if Status.isSuccess status then .ok body
  else .error (storeError key ("HTTP " ++ Status.text status ++ ": " ++ body.textLossy))

/-- Asks for a value. -/
def get (config : Config) (key : String) : Session Bytes := do
  let url ← Session.require (storeError key Store.badKeyMessage)
    (Store.keyUrl? config.endpoint ["v1", "kv"] key)
  let (status, body) ← Store.fetch (storeError key)
    (draft config { url with query := some (query config) })
  Session.pure (classify key status body)

/-- Opens a connection: the service must name a leader. -/
def connect (config : Config) : Session Store := do
  let url ← Session.require (Store.baseError backend config)
    (Store.keyUrl? config.endpoint ["v1", "status", "leader"] "")
  Store.probe config (draft config url)
  return ⟨backend, get config⟩

/-- A value is asked for at the address of its key. -/
theorem get_eq (config : Config) (key : String) :
    get config key = (do
      let (status, body) ← Store.fetch (storeError key) (draft config (keyUrl config key))
      Session.pure (classify key status body)) := by
  rw [get, Store.keyUrl?_eq, Session.require_some_bind]
  rfl

theorem connect_eq (config : Config) :
    connect config = (do
      Store.probe config (draft config (Store.keyUrl config.endpoint ["v1", "status", "leader"] ""))
      return ⟨backend, get config⟩) := by
  rw [connect, Store.keyUrl?_eq, Session.require_some_bind]

end NetDelegate.Consul
