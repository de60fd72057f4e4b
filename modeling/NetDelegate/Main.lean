/-
  NetDelegate/Main.lean
  =====================
  **The command line.**  It hands the options, the environment, standard input and the record of
  the container to `Program.run`, prints what that gives, and ends with its status.  It opens no
  connections and starts no processes, so no store answers and no plugin is found; records are
  read, but stay as they are.
-/
import NetDelegate.Program

namespace NetDelegate.CommandLine

/-- The variables with these names. -/
def readVariables (names : List String) : IO Environment := do
  let found ← names.mapM fun name => do
    let value ← IO.getEnv name
    return (name, value.map utf8)
  return fun name => (found.find? fun v => v.1 = name).bind (·.2)

/-- All that is left of a stream, up to a fault. -/
partial def readRest (stream : IO.FS.Stream) (before : ByteArray) : IO Input := do
  try
    let chunk ← stream.read 65536
    if chunk.isEmpty then return before.toList else readRest stream (before ++ chunk)
  catch fault => return ⟨before.toList, some (.other fault.toString)⟩

/-- The folder of the records with the record of one container. -/
def readRecord (folder : Bytes) (id : String) : IO Place := do
  try
    let data ← IO.FS.readBinFile (Scratch.recordPath folder id).textLossy
    return .present (.folder Scratch.folderMode
      [(Scratch.recordName id, .file data.toList Scratch.recordMode)])
  catch _ => return .missing

/-- Processes on a machine without any. -/
def noProcesses : Processes :=
  .ofSpawn (fun _ => false) fun _ _ => .error (.system .noEntry)

/-- What the record of the container is, for options that name one. -/
def placeFor (env : Environment) (words : List Bytes) : IO Place :=
  match Options.read env words with
  | .ok o => match o.containerId with
    | some id => readRecord o.stateDir id
    | none => return .missing
  | .error _ => return .missing

/-- Runs the program and gives its status. -/
def run (args : List String) : IO UInt32 := do
  let words := args.map utf8
  let names := Parameter.all.map Parameter.variableName
  let env ← readVariables names
  let input ← if Program.wantsInput env words then readRest (← IO.getStdin) .empty
    else pure ([] : Bytes)
  let env ← readVariables (names ++ Config.variableNames input.bytes)
  let place ← placeFor env words
  let machine : Machine := {
    environment := env
    network := fun _ _ => .unreachable
    delegator := Delegator.ofProcesses noProcesses
    pid := 0
    place := fun _ => place }
  let result := Program.run machine words input
  let output ← IO.getStdout
  output.write ⟨result.output.toArray⟩
  output.flush
  return UInt32.ofNat result.status

end NetDelegate.CommandLine

/-- The program. -/
def main (args : List String) : IO UInt32 := NetDelegate.CommandLine.run args
