/-
  NetDelegate/Plugin/Delegator.lean
  =================================
  **Delegating to plugins.**  A `Delegator` answers calls, and may answer differently after
  different earlier calls.  `Delegator.ofProcesses` runs the plugins as processes.
-/
import NetDelegate.Plugin.Process

namespace NetDelegate

/-- The answers to calls, given the calls that were made before. -/
structure Delegator where
  attach : List Call → Call → Except Error AddResult
  detach : List Call → Call → Except Error Unit

namespace Delegator

/-- The result that the output of a plugin is; output that is none is an error of the call. -/
def resultOf (call : Call) (output : Bytes) : Except Error AddResult :=
  match AddResult.ofBytes output with
  | .ok r => .ok r
  | .error e => .error (Plugin.failed call ("invalid result: " ++ e.message))

/-- Runs plugins as processes. -/
def ofProcesses (ps : Processes) : Delegator where
  attach earlier call := do
    let output ← Plugin.execute ps earlier call
    resultOf call output
  detach earlier call := do
    let _ ← Plugin.execute ps earlier call
    .ok ()

end Delegator

end NetDelegate
