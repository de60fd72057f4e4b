/-
  NetDelegate/Store/Etcd.lean
  ===========================
  **The etcd store.**  An answer is an object with a node, which has the value; an error is an
  object with a code of the store's own.  The options for user name and password go along in a
  header.
-/
import NetDelegate.Json.Record
import NetDelegate.Store.Basic

namespace NetDelegate.Etcd

/-- The name of the store. -/
def backend : String := "etcd"

/-! ### Answers -/

/-- A node of the store: a value, or a directory of other nodes. -/
structure Node where
  value : Option String
  isDirectory : Bool
  deriving DecidableEq, Repr

/-- The members of a node read so far. -/
structure NodeDraft where
  value : Option (Option String)
  isDirectory : Option Bool

/-- How a node is read. -/
def nodeRecord : Json.Record NodeDraft where
  title := "struct Node"
  fields := [
    Json.Record.field "value" false NodeDraft.value
      (fun d v => { d with value := some v }) (fun _ => Json.readString?),
    Json.Record.field "dir" false NodeDraft.isDirectory
      (fun d v => { d with isDirectory := some v }) (fun _ => Json.readBool)]
  initial := ⟨none, none⟩

/-- Reads a node. -/
def readNode (depth : Nat) (input : Bytes) : Except Json.Stop (Node × Bytes) := do
  let (d, rest) ← nodeRecord.read depth input
  .ok (⟨d.value.join, d.isDirectory.getD false⟩, rest)

/-- How the answer for a key is read. -/
def answerRecord : Json.Record (Option Node) where
  title := "struct KeysResponse"
  fields := [Json.Record.field "node" true id (fun _ n => some n) readNode]
  initial := none

/-- Reads the node of an answer. -/
def parseNode (body : Bytes) : Except Json.Error Node :=
  (answerRecord.parse body).map fun n => n.getD ⟨none, false⟩

/-- An error of the store. -/
structure Fault where
  code : Nat
  message : String
  deriving DecidableEq, Repr

/-- The members of an error read so far. -/
structure FaultDraft where
  code : Option Nat
  message : Option String

/-- How an error is read. -/
def faultRecord : Json.Record FaultDraft where
  title := "struct ErrorResponse"
  fields := [
    Json.Record.field "errorCode" true FaultDraft.code
      (fun d v => { d with code := some v }) (fun _ => Json.readWhole Json.maxWord "u64"),
    Json.Record.field "message" false FaultDraft.message
      (fun d v => { d with message := some v }) (fun _ => Json.readString)]
  initial := ⟨none, none⟩

/-- Reads an error. -/
def parseFault (body : Bytes) : Except Json.Error Fault :=
  (faultRecord.parse body).map fun d => ⟨d.code.getD 0, d.message.getD ""⟩

/-- The code of a key that is not there. -/
def keyNotFoundCode : Nat := 100

/-- The wording of an error. -/
def Fault.text (f : Fault) : String :=
  "etcd error " ++ String.ofList (Json.Number.decimalDigits f.code) ++ ": " ++ f.message

/-! ### Asking -/

/-- The request for an address. -/
def draft (config : Config) (url : Url) : Draft where
  url := url
  authorization :=
    match config.option? "username" with
    | none => []
    | some username => [Draft.basic (utf8 username) (utf8 ((config.option? "password").getD ""))]
  token := none

/-- The address of a key. -/
def keyUrl (config : Config) (key : String) : Url :=
  Store.keyUrl config.endpoint ["v2", "keys"] key

/-- An error at a key. -/
def storeError (key message : String) : Error := .storeFailed backend key message

/-- The value that an answer gives. -/
def classify (key : String) (status : Nat) (body : Bytes) : Except Error Bytes :=
  if status = Status.notFound then
    match parseFault body with
    | .ok f =>
      if f.code ≠ keyNotFoundCode then .error (storeError key f.text)
      else .error (.keyNotFound key)
    | .error _ => .error (.keyNotFound key)
  else if !Status.isSuccess status then
    match parseFault body with
    | .ok f => .error (storeError key f.text)
    | .error _ =>
      .error (storeError key ("HTTP " ++ Status.text status ++ ": " ++ body.textLossy))
  else
    match parseNode body with
    | .error e => .error (storeError key ("unexpected response: " ++ e.text))
    | .ok node =>
      if node.isDirectory then .error (storeError key "key is a directory")
      else match node.value with
        | some value => .ok (utf8 value)
        | none => .error (storeError key "node has no value")

/-- Asks for a value. -/
def get (config : Config) (key : String) : Session Bytes := do
  let url ← Session.require (storeError key Store.badKeyMessage)
    (Store.keyUrl? config.endpoint ["v2", "keys"] key)
  let (status, body) ← Store.fetch (storeError key) (draft config url)
  Session.pure (classify key status body)

/-- Opens a connection: the service must tell its version. -/
def connect (config : Config) : Session Store := do
  let url ← Session.require (Store.baseError backend config)
    (Store.keyUrl? config.endpoint ["version"] "")
  Store.probe config (draft config url)
  return ⟨backend, get config⟩

/-- A value is asked for at the address of its key. -/
theorem get_eq (config : Config) (key : String) :
    get config key = (do
      let (status, body) ← Store.fetch (storeError key) (draft config (keyUrl config key))
      Session.pure (classify key status body)) := by
  rw [get, Store.keyUrl?_eq, Session.require_some_bind]
  rfl

theorem connect_eq (config : Config) :
    connect config = (do
      Store.probe config (draft config (Store.keyUrl config.endpoint ["version"] ""))
      return ⟨backend, get config⟩) := by
  rw [connect, Store.keyUrl?_eq, Session.require_some_bind]

end NetDelegate.Etcd
