/-
  NetDelegate/Store/Session.lean
  ==============================
  **Asking web services.**  A `Session` runs against a network, which gives the reply to each
  request, and logs the requests that reached a service.  Nothing is asked twice.
-/
import NetDelegate.Error
import NetDelegate.Text.Base64
import NetDelegate.Url.Path

namespace NetDelegate

/-! ### Requests and replies -/

/-- A request for the value at an address, as a service sees it. -/
structure Request where
  url : Url
  authorization : List Bytes
  token : List Bytes
  deriving DecidableEq

/-- What becomes of a request. -/
inductive Reply where
  /-- No service was reached. -/
  | unreachable
  /-- No service was reached in time. -/
  | delayed
  /-- The connection broke before an answer. -/
  | broken
  /-- There was no answer in time. -/
  | silent
  /-- There was an answer, with a status and a body; `none` is a body that broke off. -/
  | answered (status : Nat) (body : Option Bytes)
  deriving DecidableEq, Repr

/-- Did the request come to a service? -/
def Reply.isReached : Reply → Bool
  | unreachable | delayed => false
  | broken | silent | answered .. => true

/-- The network: the reply to a request, after the requests that were made before. -/
abbrev Network := List Request → Request → Reply

/-- Why a request has no answer. -/
inductive SendFault where
  /-- A header value has a control character. -/
  | badHeader
  /-- The address has characters or a length that no request can have. -/
  | badAddress (url : String)
  | failed (url : String)
  | timedOut (url : String)
  deriving DecidableEq, Repr

/-- The wording of a fault. -/
def SendFault.text : SendFault → String
  | badHeader => "builder error"
  | badAddress url => "builder error for url (" ++ url ++ ")"
  | failed url | timedOut url => "error sending request for url (" ++ url ++ ")"

/-- The wording where the body of an answer breaks off. -/
def bodyFault : String := "error decoding response body"

/-! ### Sessions -/

/-- A computation that asks a network: it takes the log of requests and gives it back with what
    it came to. -/
def Session (α : Type) := Network → List Request → Except Error α × List Request

namespace Session

/-- Asks nothing. -/
def pure {α : Type} (r : Except Error α) : Session α := fun _ log => (r, log)

/-- Goes on with what came out, unless it is an error. -/
def bind {α β : Type} (s : Session α) (f : α → Session β) : Session β := fun net log =>
  match s net log with
  | (.ok v, log) => f v net log
  | (.error e, log) => (.error e, log)

instance : Monad Session where
  pure v := Session.pure (.ok v)
  bind := Session.bind

/-- Ends with an error. -/
def fail {α : Type} (e : Error) : Session α := pure (.error e)

/-- Goes on with a value, or ends with the error if there is none. -/
def require {α : Type} (e : Error) : Option α → Session α
  | some v => pure (.ok v)
  | none => fail e

theorem require_some_bind {α β : Type} (e : Error) (v : α) (f : α → Session β) :
    (require e (some v) >>= f) = f v := rfl

end Session

/-! ### Sending -/

/-- A request before it is made: the address may have credentials. -/
structure Draft where
  url : Url
  authorization : List Bytes
  token : Option String
  deriving DecidableEq

namespace Draft

/-- Header values hold no control character but the tab. -/
def isHeaderByte (b : UInt8) : Bool := b = 9 || (0x20 ≤ b && b ≠ 0x7F)

/-- Basic credentials, as a header value. -/
def basic (username : Bytes) (password : Bytes) : Bytes :=
  utf8 "Basic " ++ Utf8.encode (Base64.encode (username ++ [58] ++ password))

/-- The credentials of an address, if their escapes spell text. -/
def credentials? (u : Url) : Option (Bytes × Bytes) := do
  let username ← (Percent.decode (utf8 u.username)).text?
  let password := (Percent.decode (utf8 u.password)).text?.getD ""
  if username = "" ∧ password = "" then none
  else some (utf8 username, utf8 password)

/-- Moves the credentials of an address into a header in front of the others. -/
def prepared (d : Draft) : Draft :=
  match credentials? d.url with
  | none => d
  | some (username, password) =>
    { d with
      url := d.url.withoutCredentials
      authorization := basic username password :: d.authorization }

/-- Characters that an address may have and a request may not. -/
def isUnsendable (c : Char) : Bool := "\"\x60\x7b\x7d".toList.contains c

/-- The length up to which addresses can be asked. -/
def maxAddressLength : Nat := 65534

/-- Can the address stand in a request? -/
def isSendable (u : Url) : Bool :=
  !u.host.text.any isUnsendable && u.text.utf8ByteSize ≤ maxAddressLength

/-- The request that a service sees. -/
def request (d : Draft) : Request where
  url := d.url.withoutCredentials.withoutFragment
  authorization := d.authorization
  token := (d.token.map utf8).toList

/-- Makes a request. -/
def send (d : Draft) (net : Network) (log : List Request) :
    Except SendFault (Nat × Option Bytes) × List Request :=
  let d := d.prepared
  if (d.token.map utf8).any fun t => t.any fun b => !isHeaderByte b then
    (.error .badHeader, log)
  else if !isSendable d.url then (.error (.badAddress d.url.text), log)
  else
    match net log d.request with
    | .unreachable => (.error (.failed d.url.text), log)
    | .delayed => (.error (.timedOut d.url.text), log)
    | .broken => (.error (.failed d.url.text), log ++ [d.request])
    | .silent => (.error (.timedOut d.url.text), log ++ [d.request])
    | .answered status body => (.ok (status, body), log ++ [d.request])

end Draft

end NetDelegate
