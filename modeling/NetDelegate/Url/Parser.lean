/-
  NetDelegate/Url/Parser.lean
  ===========================
  **Reading network addresses.**  Blanks and control characters at both ends are dropped, and
  tabs and line ends everywhere.  An address of a web service may have any number of slashes
  after its scheme, and backslashes in their place; its host must not be empty.  Addresses of
  other schemes are refused, but what is wrong with their host is reported first.
-/
import NetDelegate.Error
import NetDelegate.Url.Domain
import NetDelegate.Url.Path

namespace NetDelegate.Url

/-- Why a text is not the address of a web service. -/
inductive Issue where
  | noScheme
  | emptyHost
  | invalidPort
  | invalidIpv4
  | invalidIpv6
  | invalidName
  | invalidHostCharacter
  | foreignScheme (scheme : String)
  deriving DecidableEq, Repr

/-- The wording of an issue. -/
def Issue.text : Issue → String
  | noScheme => "Invalid URL format: relative URL without a base"
  | emptyHost => "Invalid URL format: empty host"
  | invalidPort => "Invalid URL format: invalid port number"
  | invalidIpv4 => "Invalid URL format: invalid IPv4 address"
  | invalidIpv6 => "Invalid URL format: invalid IPv6 address"
  | invalidName => "Invalid URL format: invalid international domain name"
  | invalidHostCharacter => "Invalid URL format: invalid domain character"
  | foreignScheme s => "Unsupported URL scheme: " ++ s

/-! ### Hosts -/

/-- Reads a sixteen-byte address in brackets. -/
def readBracketed (cs : List Char) : Except Issue Host :=
  if cs.getLast? = some ']' then
    match Host.ipv6? (cs.drop 1).dropLast with
    | some pieces => .ok (.ipv6 pieces)
    | none => .error .invalidIpv6
  else .error .invalidIpv6

/-- Reads the host of a web service. -/
def readHost (cs : List Char) : Except Issue Host :=
  if cs.head? = some '[' then readBracketed cs
  else match (Utf8.decode? (Percent.decode (Utf8.encode cs))).bind Domain.toAscii? with
    | none => .error .invalidName
    | some [] => .error .emptyHost
    | some name =>
      if Host.endsInNumber name then
        match Host.ipv4? name with
        | some n => .ok (.ipv4 n)
        | none => .error .invalidIpv4
      else .ok (.domain (String.ofList name))

/-- Characters that a host of a foreign scheme must not have. -/
def isForbiddenInHost (c : Char) : Bool := c.toNat = 0 || " #/:<>?@[\\]^|".toList.contains c

/-- Checks the host of a foreign scheme. -/
def checkForeignHost (cs : List Char) : Except Issue Unit :=
  if cs.head? = some '[' then (readBracketed cs).map fun _ => ()
  else if cs.any isForbiddenInHost then .error .invalidHostCharacter
  else .ok ()

/-! ### From the credentials to the port -/

/-- Does the character end the part before the path?  `slashes` says that a backslash does. -/
def endsAuthority (slashes : Bool) (c : Char) : Bool :=
  c = '/' || c = '?' || c = '#' || (slashes && c = '\\')

/-- The part up to the last `@`, and the part behind it; all is behind it if there is none. -/
def splitCredentials (cs : List Char) : Option (List Char) × List Char :=
  if cs.contains '@' then
    (some ((cs.reverse.dropWhile (· ≠ '@')).drop 1).reverse,
      (cs.reverse.takeWhile (· ≠ '@')).reverse)
  else (none, cs)

/-- The host, up to a colon outside brackets, and what follows it. -/
def spanHost (inside : Bool) : List Char → List Char × List Char
  | [] => ([], [])
  | c :: cs =>
    if c = ':' && !inside then ([], c :: cs)
    else
      let (host, rest) := spanHost (if c = '[' then true else if c = ']' then false else inside) cs
      (c :: host, rest)

/-- Reads the digits of a port; nothing else may follow. -/
def readPort (n : Nat) : List Char → Except Issue Nat
  | [] => .ok n
  | c :: cs =>
    if c.isDigit then
      let n := n * 10 + (c.toNat - 48)
      if 65535 < n then .error .invalidPort else readPort n cs
    else .error .invalidPort

/-- The port behind a host, unless it is empty or the one that need not be written. -/
def readPort? (default : Option Nat) : List Char → Except Issue (Option Nat)
  | _ :: d :: ds => do
    let n ← readPort 0 (d :: ds)
    .ok (if some n = default then none else some n)
  | _ => .ok none

/-- What stands between the slashes after the scheme and the path. -/
structure Authority where
  username : String
  password : String
  host : List Char
  port : List Char

/-- Takes the part before the path to pieces; `port` begins with a colon if it is not empty. -/
def Authority.ofText (cs : List Char) : Authority :=
  let (credentials, rest) := splitCredentials cs
  let credentials := credentials.getD []
  let (host, port) := spanHost false rest
  let written (cs : List Char) : String := String.ofList (Percent.encode Percent.userKeeps cs)
  { username := written (credentials.takeWhile (· ≠ ':'))
    password := written ((credentials.dropWhile (· ≠ ':')).drop 1)
    host := host
    port := port }

/-! ### Addresses of web services -/

/-- Is it a slash of either kind? -/
def isSlash (c : Char) : Bool := c = '/' || c = '\\'

/-- A written part that begins with the given mark, without it. -/
def readMarked (keeps : Char → Bool) (mark : Char) : List Char → Option String
  | [] => none
  | c :: cs => if c = mark then some (String.ofList (Percent.encode keeps cs)) else none

/-- Reads what follows the scheme of a web service. -/
def readService (scheme : Scheme) (cs : List Char) : Except Issue Url := do
  let cs := cs.dropWhile isSlash
  let a := Authority.ofText (cs.takeWhile fun c => !endsAuthority true c)
  let rest := cs.dropWhile fun c => !endsAuthority true c
  if a.host = [] then .error .emptyHost
  let host ← readHost a.host
  let port ← readPort? (some scheme.defaultPort) a.port
  let path := rest.takeWhile fun c => c ≠ '?' && c ≠ '#'
  let rest := rest.dropWhile fun c => c ≠ '?' && c ≠ '#'
  let segments := match path with
    | [] => [[]]
    | _ :: path => splitWhere isSlash path
  .ok {
    scheme := scheme
    username := a.username
    password := a.password
    host := host
    port := port
    path := Path.follow [] segments
    query := readMarked Percent.queryKeeps '?' (rest.takeWhile (· ≠ '#'))
    fragment := readMarked Percent.fragmentKeeps '#' (rest.dropWhile (· ≠ '#')) }

/-! ### Addresses of other schemes -/

/-- Checks what follows the scheme and two slashes of a foreign scheme. -/
def checkForeign (cs : List Char) : Except Issue Unit := do
  let authority := cs.takeWhile fun c => !endsAuthority false c
  let a := Authority.ofText authority
  if splitCredentials authority = (some [], []) ∧ authority ≠ cs then .error .emptyHost
  checkForeignHost a.host
  if a.host = [] ∧ a.port ≠ [] then .error .emptyHost
  let _ ← readForeignPort a.port
  if a.host = [] ∧ (a.username ≠ "" ∨ a.password ≠ "") then .error .emptyHost
where
  /-- A backslash ends the port of a foreign scheme, too. -/
  readForeignPort (cs : List Char) : Except Issue (Option Nat) :=
    readPort? none (cs.takeWhile (· ≠ '\\'))

/-- Checks what follows the scheme of files: with two slashes there may be a host. -/
def checkFile (cs : List Char) : Except Issue Unit :=
  match cs with
  | a :: b :: rest =>
    if isSlash a && isSlash b then
      let host := rest.takeWhile fun c => !endsAuthority true c
      if host = [] ∨ Path.isDrive (String.ofList host) then .ok ()
      else (readHost host).map fun _ => ()
    else .ok ()
  | _ => .ok ()

/-- Checks what follows a scheme whose addresses have the form of those of web services. -/
def checkSpecial (cs : List Char) : Except Issue Unit := do
  let cs := cs.dropWhile isSlash
  let a := Authority.ofText (cs.takeWhile fun c => !endsAuthority true c)
  if a.host = [] then .error .emptyHost
  let _ ← readHost a.host
  let _ ← readPort? none a.port
  .ok ()

/-! ### Whole addresses -/

/-- Characters of a scheme after its first. -/
def isSchemeLetter (c : Char) : Bool := c.isAlphanum || c = '+' || c = '-' || c = '.'

/-- The scheme, in small letters, and what follows its colon. -/
def splitScheme (cs : List Char) : Option (String × List Char) :=
  match cs with
  | [] => none
  | c :: _ =>
    if c.isAlpha then
      match cs.dropWhile isSchemeLetter with
      | ':' :: rest => some (String.ofList ((cs.takeWhile isSchemeLetter).map Char.toLower), rest)
      | _ => none
    else none

/-- Drops what does not count: blanks and control characters at both ends, tabs and line ends
    everywhere. -/
def cleaned (cs : List Char) : List Char :=
  let isEdge (c : Char) : Bool := c.toNat ≤ 0x20
  (((cs.dropWhile isEdge).reverse.dropWhile isEdge).reverse).filter fun c => !Path.isDropped c

/-- Refuses a scheme. -/
def refuse (scheme : String) (check : Except Issue Unit) : Except Issue Url := do
  check
  .error (.foreignScheme scheme)

/-- Reads the address of a web service. -/
def parse (s : String) : Except Issue Url :=
  match splitScheme (cleaned s.toList) with
  | none => .error .noScheme
  | some (scheme, rest) =>
    if scheme = "http" then readService .http rest
    else if scheme = "https" then readService .https rest
    else if scheme = "file" then refuse scheme (checkFile rest)
    else if scheme = "ws" ∨ scheme = "wss" ∨ scheme = "ftp" then refuse scheme (checkSpecial rest)
    else match rest with
      | '/' :: '/' :: rest => refuse scheme (checkForeign rest)
      | _ => refuse scheme (.ok ())

/-- Reads an address that is the value of a field. -/
def check (field value : String) : Except Failure Url :=
  if value = "" then failWith (.invalidValue field value "URL cannot be empty")
  else match parse value with
    | .ok u => .ok u
    | .error issue => failWith (.invalidValue field value issue.text)

end NetDelegate.Url
