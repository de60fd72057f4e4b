/-
  NetDelegate/Command.lean
  ========================
  **What a plugin is told to do with a network.**
-/

namespace NetDelegate

/-- Attach a container to a network, or release it. -/
inductive Command where
  | add
  | del
  deriving DecidableEq, Repr

/-- The word that a plugin is given. -/
def Command.word : Command → String
  | add => "ADD"
  | del => "DEL"

end NetDelegate
