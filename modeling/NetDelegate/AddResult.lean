/-
  NetDelegate/AddResult.lean
  ==========================
  **What a plugin answers when it has attached a container.**  The answer is passed on byte for
  byte; it is only scanned for its form.
-/
import NetDelegate.Error
import NetDelegate.Json.Skip

namespace NetDelegate

/-- The answer of a plugin. -/
structure AddResult where
  bytes : Bytes
  deriving DecidableEq, Repr

namespace AddResult

/-- Takes an answer that has the form of JSON. -/
def ofBytes (bytes : Bytes) : Except Error AddResult :=
  match Json.scan bytes with
  | .ok () => .ok ⟨bytes⟩
  | .error e => .error (.unreadable e)

/-- The answer as a value. -/
def toJson (r : AddResult) : Except Error Json := (Json.parse r.bytes).mapError .unreadable

end AddResult

end NetDelegate
