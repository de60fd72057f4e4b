/-
  NetDelegate/Store/Basic.lean
  ============================
  **Stores,** which give a value for a key.  `Store` is an open connection; a web service is
  probed once before it counts as open.  A key belongs to the address that has the service's
  prefix and the parts of the key behind the path of the endpoint.
-/
import NetDelegate.Config.Basic
import NetDelegate.Store.Session
import NetDelegate.Store.Status

namespace NetDelegate

/-- An open connection to a store. -/
structure Store where
  /-- The name of the store in messages. -/
  backend : String
  /-- The value of a key. -/
  get : String → Session Bytes

/-- A way to open a connection. -/
abbrev Connector := Config → Session Store

namespace Store

/-- The parts of a key; separators at its start do not count. -/
def keyParts (key : String) : List (List Char) :=
  match key.toList.dropWhile (· = Config.keySeparator) with
  | [] => []
  | cs => splitWhere (· = Config.keySeparator) cs

/-- The address of a key: the parts of `top` and of the key behind the path of the endpoint. -/
def keyUrl (endpoint : Url) (top : List String) (key : String) : Url :=
  { endpoint with
    path := Path.extend (Path.withoutTrailing endpoint.path)
      (top.map String.toList ++ keyParts key) }

/-- The address of a key, unless the endpoint is none to which a path can be added. -/
def keyUrl? (endpoint : Url) (top : List String) (key : String) : Option Url :=
  if endpoint.canBeBase then some (keyUrl endpoint top key) else none

theorem keyUrl?_eq (endpoint : Url) (top : List String) (key : String) :
    keyUrl? endpoint top key = some (keyUrl endpoint top key) :=
  if_pos endpoint.canBeBase_eq_true

/-- The error where the endpoint is no address to which a path can be added. -/
def baseError (backend : String) (config : Config) : Error :=
  .connectFailed backend config.endpoint.text "endpoint URL cannot be a base"

/-- What is wrong with a key that has no address. -/
def badKeyMessage : String := "invalid key URL"

/-- Why a connection could not be opened. -/
def connectError (config : Config) (fault : SendFault) : Error :=
  match fault with
  | .timedOut _ => .connectTimeout config.endpoint.text config.timeout
  | fault => .connectFailed config.backend config.endpoint.text fault.text

/-- Asks whether a service is there: its answer must be a success, whatever the body. -/
def probe (config : Config) (draft : Draft) : Session Unit := fun net log =>
  match draft.send net log with
  | (.error fault, log) => (.error (connectError config fault), log)
  | (.ok (status, _), log) =>
    if Status.isSuccess status then (.ok (), log)
    else
      (.error (.connectFailed config.backend config.endpoint.text
        ("handshake returned HTTP " ++ Status.text status)), log)

/-- Asks for a value: status and whole body of the answer. -/
def fetch (fail : String → Error) (draft : Draft) : Session (Nat × Bytes) := fun net log =>
  match draft.send net log with
  | (.error fault, log) => (.error (fail fault.text), log)
  | (.ok (_, none), log) => (.error (fail bodyFault), log)
  | (.ok (status, some body), log) => (.ok (status, body), log)

end Store

end NetDelegate
