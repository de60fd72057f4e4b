/-
  NetDelegate/Plugin/Process.lean
  ===============================
  **Running a plugin.**  A plugin is told about the container by environment variables and gets
  the configuration of its network on standard input.  If it ends well, its output is the answer;
  if not, its output may be an error object, which then is the error.
-/
import NetDelegate.AddResult
import NetDelegate.ErrorReport
import NetDelegate.Plugin.Search
import NetDelegate.Text.Blank

namespace NetDelegate

/-! ### Ends of processes -/

/-- How a process ends. -/
inductive ExitStatus where
  | code (n : Nat)
  /-- A signal ended it, and an image of its memory may have been left. -/
  | signal (n : Nat) (dumped : Bool := false)
  deriving DecidableEq, Repr

namespace ExitStatus

/-- The names of the signals, from the first on. -/
def signalNames : List String :=
  ["SIGHUP", "SIGINT", "SIGQUIT", "SIGILL", "SIGTRAP", "SIGABRT", "SIGBUS", "SIGFPE", "SIGKILL",
    "SIGUSR1", "SIGSEGV", "SIGUSR2", "SIGPIPE", "SIGALRM", "SIGTERM", "SIGSTKFLT", "SIGCHLD",
    "SIGCONT", "SIGSTOP", "SIGTSTP", "SIGTTIN", "SIGTTOU", "SIGURG", "SIGXCPU", "SIGXFSZ",
    "SIGVTALRM", "SIGPROF", "SIGWINCH", "SIGIO", "SIGPWR", "SIGSYS"]

/-- The wording of an end. -/
def text : ExitStatus → String
  | code n => "exit status: " ++ String.ofList (Json.Number.decimalDigits n)
  | signal n dumped =>
    let name := match signalNames[n - 1]? with
      | some name => " (" ++ name ++ ")"
      | none => ""
    let image := if dumped then " (core dumped)" else ""
    "signal: " ++ String.ofList (Json.Number.decimalDigits n) ++ name ++ image

end ExitStatus

/-- An ended process with all that it wrote. -/
structure Exit where
  status : ExitStatus
  output : Bytes
  errors : Bytes
  deriving DecidableEq, Repr

/-- What becomes of a process. -/
inductive Ending where
  /-- It could not be started. -/
  | notStarted (fault : IoFault)
  /-- Its output could not be read. -/
  | lost (message : String)
  /-- It did not close its input, which yet could not be written. -/
  | unfed (message : String)
  /-- It ended, whether it read its input or not. -/
  | ended (exit : Exit)
  deriving DecidableEq, Repr

/-- What comes of writing the input of a process. -/
inductive Feeding where
  | written
  /-- The process closed its input before all was written. -/
  | closed
  | broken (message : String)
  deriving DecidableEq, Repr

/-- A process that was started.  Its input is written while its end is waited for. -/
structure Child where
  feeding : Feeding
  exit : Except String Exit

/-- What becomes of a process that was started.  Output that could not be read counts before input
    that could not be written. -/
def Child.ending (c : Child) : Ending :=
  match c.exit, c.feeding with
  | .error message, _ => .lost message
  | .ok _, .broken message => .unfed message
  | .ok exit, .written => .ended exit
  | .ok exit, .closed => .ended exit

/-! ### What a process is given -/

/-- The start of a plugin: the file, the environment variables and the input. -/
structure Invocation where
  binary : String
  command : Command
  containerId : String
  netns : String
  ifname : String
  args : String
  path : String
  input : Bytes
  deriving DecidableEq, Repr

/-- The environment variables with their names. -/
def Invocation.variables (i : Invocation) : List (String × String) :=
  [("CNI_COMMAND", i.command.word), ("CNI_CONTAINERID", i.containerId), ("CNI_NETNS", i.netns),
    ("CNI_IFNAME", i.ifname), ("CNI_ARGS", i.args), ("CNI_PATH", i.path)]

/-- How files are found and processes end, after the calls that were made before. -/
structure Processes where
  isFile : Bytes → Bool
  run : List Call → Invocation → Ending

/-- How processes are started, after the calls that were made before. -/
abbrev Spawn := List Call → Invocation → Except IoFault Child

/-- Processes that are started like this. -/
def Processes.ofSpawn (isFile : Bytes → Bool) (spawn : Spawn) : Processes where
  isFile := isFile
  run earlier i :=
    match spawn earlier i with
    | .error fault => .notStarted fault
    | .ok child => child.ending

namespace Plugin

/-- Has the text the character that ends texts in the operating system? -/
def hasNul (s : String) : Bool := s.toList.any fun c => c.toNat = 0

/-- The error of a call that came to nothing. -/
def failed (call : Call) (message : String) : Error :=
  .delegationFailed call.command call.plugin message

/-- The start of the plugin that is called. -/
def invocation (isFile : Bytes → Bool) (call : Call) : Except Error Invocation := do
  let binary ← find isFile call.plugin call.context.path
  match call.context.path.joined? with
  | none => .error (failed call "path segment contains separator `:`")
  | some path =>
    let i : Invocation := {
      binary := binary
      command := call.command
      containerId := call.context.containerId
      netns := call.context.netns
      ifname := call.context.ifname
      args := call.context.args
      path := path
      input := call.config }
    if i.variables.any fun v => hasNul v.2 then
      .error (failed call ("cannot execute " ++ binary ++ ": nul byte found in provided data"))
    else .ok i

/-- The message of an error object: the details, if there are any, behind the message. -/
def reportText (r : ErrorReport) : String :=
  match r.details with
  | none | some "" => r.message
  | some details => r.message ++ "; " ++ details

/-- The error of a plugin that ended badly. -/
def exitError (plugin binary : String) (exit : Exit) : Error :=
  match ErrorReport.parse exit.output with
  | .ok r => .pluginFailed plugin (some r.code) (reportText r)
  | .error _ =>
    let errors := trim exit.errors.textLossy
    .pluginFailed plugin none
      (if errors = "" then binary ++ " exited with " ++ exit.status.text else errors)

/-- Runs a plugin and gives its output. -/
def execute (ps : Processes) (earlier : List Call) (call : Call) : Except Error Bytes := do
  let i ← invocation ps.isFile call
  match ps.run earlier i with
  | .notStarted fault =>
    .error (failed call ("cannot execute " ++ i.binary ++ ": " ++ fault.text))
  | .lost message => .error (failed call message)
  | .unfed message => .error (failed call ("writing config to stdin: " ++ message))
  | .ended exit =>
    if exit.status = .code 0 then .ok exit.output
    else .error (exitError call.plugin i.binary exit)

end Plugin

end NetDelegate
