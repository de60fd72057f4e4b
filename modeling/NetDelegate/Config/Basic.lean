/-
  NetDelegate/Config/Basic.lean
  =============================
  **The configuration of one run.**  `Config.load` reads a network configuration, expands the
  references in its options and checks it: a `Config` has a backend, the address of a web
  service, a key prefix that ends with a separator and a timeout that is not zero.
-/
import NetDelegate.Config.Conf
import NetDelegate.ContainerId
import NetDelegate.Environment
import NetDelegate.Text.Lowercase
import NetDelegate.Url.Parser

namespace NetDelegate

/-- A checked configuration. -/
structure Config where
  name : String
  version : Option String
  backend : String
  endpoint : Url
  basePath : String
  options : Settings
  timeout : Duration
  deriving DecidableEq

namespace Config

/-- The separator of the parts of a key. -/
def keySeparator : Char := '/'

/-- The timeout where none is given. -/
def defaultTimeout : Duration := ⟨10, 0, by decide, Duration.zero.nanos_lt⟩

/-- A key prefix, with a separator at its end. -/
def normalizeBasePath (path : String) : String :=
  if path.toList.getLast? = some keySeparator then path else path.push keySeparator

/-- The key under which the store has the list of a container. -/
def keyFor (c : Config) (id : String) : String := c.basePath ++ id

/-- The value of an option. -/
def option? (c : Config) (name : String) : Option String := c.options.get? name

/-! ### Options -/

/-- The value of an option with its references replaced. -/
def expandOption (env : Environment) (name value : String) : Except Failure String :=
  match env.expand value with
  | .ok s => .ok s
  | .error missing =>
    failWith (.invalidValue ("storeConfig." ++ name) value
      ("environment variable '" ++ missing ++ "' not set"))

/-- The options with their references replaced, visited in the given order. -/
def expandOptions (env : Environment) : List (String × String) → Except Failure Settings
  | entries => entries.foldlM
    (fun s e => do
      let value ← expandOption env e.1 e.2
      .ok (s.insert e.1 value))
    NameMap.empty

/-- A number of seconds without a unit; a plus sign may stand before it. -/
def plainSeconds? (cs : List Char) : Option Duration :=
  let digits := match cs with
    | '+' :: ds => ds
    | ds => ds
  if digits = [] ∨ digits.any (!·.isDigit) then none
  else Duration.ofSeconds? (digits.foldl (fun n c => n * 10 + (c.toNat - 48)) 0)

/-- Reads a timeout: a number of seconds or a span with units. -/
def parseTimeout (value : String) : Except Failure Duration :=
  let value := trim value
  match plainSeconds? value.toList with
  | some d => .ok d
  | none =>
    match Duration.parse value with
    | .ok d => .ok d
    | .error .overflow => .error (.breakdown Duration.Issue.overflow.text)
    | .error issue =>
      failWith (.invalidValue "storeConfig.connectionTimeout" value
        ("Invalid duration: " ++ issue.text))

/-- The timeout that the options give. -/
def timeoutOf (options : Settings) : Except Failure Duration :=
  match options.get? "connectionTimeout" with
  | some value => parseTimeout value
  | none => .ok defaultTimeout

/-- Does a text have the mark between a scheme and a host? -/
def hasSchemeMark : List Char → Bool
  | [] => false
  | c :: cs => "://".toList.isPrefixOf (c :: cs) || hasSchemeMark cs

/-- The address of the store; `scheme` stands in for one that is not written. -/
def parseEndpoint (uri scheme : String) : Except Failure Url :=
  if scheme ≠ "http" ∧ scheme ≠ "https" then
    failWith (.invalidValue "storeConfig.scheme" scheme "Scheme must be http or https")
  else Url.check "uri" (if hasSchemeMark uri.toList then uri else scheme ++ "://" ++ uri)

/-! ### Checks -/

/-- Refuses a text of blanks only. -/
def require (name value : String) : Except Failure Unit :=
  if isBlankText value then failWith (.malformedConfig (name ++ " is required")) else .ok ()

/-- Checks a configuration as a whole: the address must also be one in its written form. -/
def validate (c : Config) : Except Failure Unit := do
  checkNonBlank "storeBackend" c.backend
  let _ ← Url.check "uri" c.endpoint.text
  if c.timeout.isZero then
    failWith (.invalidValue "storeConfig.connectionTimeout" "0" "Timeout must be greater than zero")
  else .ok ()

/-! ### Loading -/

/-- Makes the configuration of what was handed in, visiting its options in the given order. -/
def ofConfVisiting (env : Environment) (conf : Conf) (visits : List (String × String)) :
    Except Failure Config := do
  require "storeBackend" conf.backend
  require "uri" conf.uri
  let options ← expandOptions env visits
  let timeout ← timeoutOf options
  let endpoint ← parseEndpoint (trim conf.uri) ((options.get? "scheme").getD "http")
  let config : Config := {
    name := conf.name
    version := conf.version
    backend := lowercase (trim conf.backend)
    endpoint := endpoint
    basePath := normalizeBasePath conf.basePath
    options := options
    timeout := timeout }
  config.validate
  .ok config

/-- Makes the configuration of what was handed in. -/
def ofConf (env : Environment) (conf : Conf) : Except Failure Config :=
  ofConfVisiting env conf conf.options.entries

/-- The variables to which the options of a configuration refer. -/
def variableNames (text : Bytes) : List String :=
  match Conf.parse text with
  | .ok conf => conf.options.entries.flatMap fun e => Environment.names e.2
  | .error _ => []

/-- Reads a configuration. -/
def load (env : Environment) (text : Bytes) : Except Failure Config :=
  match Conf.parse text with
  | .ok conf => ofConf env conf
  | .error e => failWith (.malformedConfig e.text)

end Config

end NetDelegate
