/-
  NetDelegate/NetworkList.lean
  ============================
  **The list of networks of a container.**  A list has an entry for each network, in the order
  in which they are set up; the first one gives the result of the whole.  Of an entry only
  `type` counts here, which names the plugin; all else is the plugin's.
-/
import NetDelegate.Error
import NetDelegate.Json.Printer
import NetDelegate.Json.Reader

namespace NetDelegate

/-- The configuration of one network. -/
structure NetworkEntry where
  members : Json.Members

namespace NetworkEntry

/-- The plugin that the entry names. -/
def plugin? (e : NetworkEntry) : Option String := do
  let s ← (← e.members.get? "type").text?
  if s = "" then none else some s

/-- The configuration that the plugin is given. -/
def bytes (e : NetworkEntry) : Bytes := (Json.object e.members).bytes

end NetworkEntry

/-- The networks of a container; there is always one. -/
structure NetworkList where
  first : NetworkEntry
  rest : List NetworkEntry

namespace NetworkList

/-- The entries, in order. -/
def entries (l : NetworkList) : List NetworkEntry := l.first :: l.rest

/-- Reads one entry. -/
def readEntry (depth : Nat) (input : Bytes) : Except Json.Stop (NetworkEntry × Bytes) := do
  let (pairs, rest) ← Json.readObject Json.readValue depth input
  .ok (⟨Json.ofPairs pairs⟩, rest)

/-- Reads the entries of a list, of which there may be none. -/
def readEntries (input : Bytes) : Except Json.Stop (List NetworkEntry × Bytes) :=
  Json.readArray readEntry Json.maxDepth input

/-- Reads a list. -/
def parse (text : Bytes) : Except Failure NetworkList :=
  match Json.readAll readEntries text with
  | .error e => failWith (.malformedList ("Could not unmarshal store value: " ++ e.text))
  | .ok [] => failWith (.malformedList "network config list is empty")
  | .ok (e :: es) => .ok ⟨e, es⟩

end NetworkList

end NetDelegate
