/-
  NetDelegate/Url/Basic.lean
  ==========================
  **Network addresses.**  A `Url` names a web service: scheme, credentials, host, port, path,
  query and fragment.  Credentials, path, query and fragment hold their written form, so that
  `Url.text` only puts the parts together.
-/
import NetDelegate.Text.Percent
import NetDelegate.Url.Host

namespace NetDelegate

/-- The schemes of web services. -/
inductive Scheme where
  | http
  | https
  deriving DecidableEq, Repr

namespace Scheme

/-- The written form of a scheme. -/
def text : Scheme → String
  | http => "http"
  | https => "https"

/-- The port that need not be written. -/
def defaultPort : Scheme → Nat
  | http => 80
  | https => 443

end Scheme

/-- A network address.  The path is given by its segments, of which there is always one. -/
structure Url where
  scheme : Scheme
  username : String
  password : String
  host : Host
  port : Option Nat
  path : List String
  query : Option String
  fragment : Option String
  deriving DecidableEq, Repr

namespace Url

/-- The credentials in front of the host. -/
def credentialsText (u : Url) : List Char :=
  let password := if u.password = "" then [] else ':' :: u.password.toList
  match u.username.toList ++ password with
  | [] => []
  | cs => cs ++ ['@']

/-- The port behind the host. -/
def portText (u : Url) : List Char :=
  match u.port with
  | none => []
  | some n => ':' :: Json.Number.decimalDigits n

/-- The written form of a path. -/
def pathText (segments : List String) : List Char := segments.flatMap fun s => '/' :: s.toList

/-- An optional part behind its mark. -/
def marked (mark : Char) : Option String → List Char
  | none => []
  | some s => mark :: s.toList

/-- The written form of an address. -/
def text (u : Url) : String :=
  String.ofList (u.scheme.text.toList ++ "://".toList ++ u.credentialsText ++ u.host.text ++
    u.portText ++ pathText u.path ++ marked '?' u.query ++ marked '#' u.fragment)

/-- Has the address a path that segments can be added to?  It has if a slash follows the colon of
    its scheme. -/
def canBeBase (u : Url) : Bool :=
  match u.text.toList.dropWhile (· ≠ ':') with
  | ':' :: '/' :: _ => true
  | _ => false

/-- The written form begins with the scheme and two slashes. -/
theorem exists_text_eq (u : Url) :
    ∃ rest, u.text.toList = u.scheme.text.toList ++ "://".toList ++ rest := by
  refine ⟨u.credentialsText ++ u.host.text ++ u.portText ++ pathText u.path ++
    marked '?' u.query ++ marked '#' u.fragment, ?_⟩
  rw [text, String.toList_ofList]
  simp only [List.append_assoc]

/-- The address of a web service can always be a base. -/
theorem canBeBase_eq_true (u : Url) : u.canBeBase = true := by
  obtain ⟨rest, hrest⟩ := u.exists_text_eq
  rw [canBeBase, hrest]
  cases u.scheme with
  | http => rfl
  | https => rfl

/-- The address without its credentials. -/
def withoutCredentials (u : Url) : Url := { u with username := "", password := "" }

/-- The address without its fragment. -/
def withoutFragment (u : Url) : Url := { u with fragment := none }

end Url

end NetDelegate
