/-
  NetDelegate/Program.lean
  ========================
  **A whole run of the program.**  It reads its options, and, to set up or tear down, a
  configuration on standard input.  It ends with what is printed and a status.  Setting up prints
  the result of the first plugin as it is, tearing down prints nothing; a failure of either is
  printed as an error object.
-/
import NetDelegate.Engine
import NetDelegate.Options

namespace NetDelegate

/-- All that a run depends on. -/
structure Machine where
  environment : Environment
  network : Network
  delegator : Delegator
  /-- The number of the process. -/
  pid : Nat
  /-- What is at a path. -/
  place : Bytes → Place
  disk : Scratch.Disk := {}

/-- What the work meets on a machine. -/
def Machine.world (m : Machine) : World :=
  ⟨m.environment, Registry.builtin, m.network, m.delegator, m.pid, m.disk⟩

/-- What the work begins with, if the records are in this folder. -/
def Machine.start (m : Machine) (stateDir : Bytes) : State := ⟨m.place stateDir, [], []⟩

/-- Standard input: the bytes that could be read, and the fault that kept the rest from being read,
    if there was one. -/
structure Input where
  bytes : Bytes
  fault : Option IoFault

/-- Bytes that can be read to their end. -/
instance : Coe Bytes Input := ⟨fun bytes => ⟨bytes, none⟩⟩

/-- The end of a run. -/
structure Run where
  status : Nat
  output : Bytes
  /-- The folder of the records and what the run leaves behind, if it came to work. -/
  traces : Option (Bytes × State)

namespace Program

/-! ### Answers -/

/-- The versions of the network interface that are supported, the newest last. -/
def supportedVersions : List String := ["0.1.0", "0.2.0", "0.3.0", "0.3.1"]

/-- The line feed that ends a line of output. -/
def lineEnd : UInt8 := 10

/-- A value on a line. -/
def line (v : Json) : Bytes := v.bytes ++ [lineEnd]

/-- The answer to the question for versions. -/
def versionAnswer : Json :=
  .object [("cniVersion", .string (supportedVersions.getLast?.getD "")),
    ("supportedVersions", .array (supportedVersions.map .string))]

/-- The version that a configuration names. -/
def versionOf? (input : Bytes) : Option String :=
  match Json.parse input with
  | .ok v => (v.member? "cniVersion").bind Json.text?
  | .error _ => none

/-- The error object of a run with this input. -/
def errorAnswer (e : Error) (input : Bytes) : Json :=
  (ErrorReport.ofError e (versionOf? input)).toJson

/-- One line of the help text. -/
def optionHelp (label note : String) : String := "  " ++ label ++ "  " ++ note ++ "\n"

/-- The line for an option with a value. -/
def parameterHelp (p : Parameter) : String := optionHelp p.label ("[env: " ++ p.variableName ++ "]")

/-- The help text. -/
def help : String :=
  purpose ++ "\n\nOptions:\n" ++
    String.join (Parameter.all.map parameterHelp) ++ optionHelp "--verbose" "Enable verbose output" ++
    optionHelp "-h, --help" "Print help"

/-! ### Running -/

/-- The status of a run that failed. -/
def failureStatus : Nat := 1

/-- The status of a run that broke down. -/
def breakdownStatus : Nat := 101

/-- The end of a run that failed. -/
def failed (f : Failure) (input : Bytes) (traces : Option (Bytes × State)) : Run :=
  match f with
  | .error e => ⟨failureStatus, line (errorAnswer e input), traces⟩
  | .breakdown _ => ⟨breakdownStatus, [], traces⟩

/-- The end of a run that came to a result. -/
def ended {α : Type} (output : α → Bytes) (input stateDir : Bytes) :
    Except Failure α × State → Run
  | (.ok v, after) => ⟨0, output v, some (stateDir, after)⟩
  | (.error f, after) => failed f input (some (stateDir, after))

/-- Sets up or tears down; the input is read to its end before anything else is looked at. -/
def delegate (m : Machine) (o : Options) (command : Command) (input : Input) : Run :=
  match input.fault with
  | some fault => failed (.error (.io fault)) input.bytes none
  | none =>
    match o.context with
    | .error f => failed f input.bytes none
    | .ok context =>
      match command with
      | .add =>
        ended AddResult.bytes input.bytes o.stateDir
          (Engine.attach m.world context input.bytes (m.start o.stateDir))
      | .del =>
        ended (fun _ => []) input.bytes o.stateDir
          (Engine.detach m.world context (m.start o.stateDir))

/-- Does the program look at its input when it is called like this? -/
def wantsInput (env : Environment) (words : List Bytes) : Bool :=
  match Options.read env words with
  | .ok o => o.action ≠ .version
  | .error _ => false

/-- Runs the program.  Standard input is only looked at to set up or tear down. -/
def run (m : Machine) (words : List Bytes) (input : Input) : Run :=
  match Options.read m.environment words with
  | .error .helpWanted => ⟨0, utf8 help, none⟩
  | .error fault => failed (.error (.invalidEnvironment fault.message)) [] none
  | .ok o =>
    match o.action with
    | .version => ⟨0, line versionAnswer, none⟩
    | .delegate command => delegate m o command input

end Program

end NetDelegate
