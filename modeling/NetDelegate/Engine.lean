/-
  NetDelegate/Engine.lean
  =======================
  **Setting a container up and tearing it down.**  Setting up fetches the list of networks of the
  container, saves it, and has each entry added in order; the result of the first one is the
  result of the whole.  Tearing down takes the saved list and has each entry deleted in the same
  order, so it never needs the store.  Nothing is undone when an entry fails.
-/
import NetDelegate.NetworkList
import NetDelegate.Plugin.Delegator
import NetDelegate.Scratch
import NetDelegate.Store.Registry

namespace NetDelegate

/-- What a run meets outside. -/
structure World where
  environment : Environment
  registry : Registry
  network : Network
  delegator : Delegator
  /-- The number of the process. -/
  pid : Nat
  disk : Scratch.Disk := {}

/-- One act of a run upon the records or the plugins, whether it succeeds or not. -/
inductive Event where
  | put (id : String) (value : Bytes)
  | take (id : String)
  | call (call : Call)
  deriving DecidableEq, Repr

namespace Event

/-- The call that an act is. -/
def call? : Event → Option Call
  | .call c => some c
  | _ => none

/-- The calls among the acts, in order. -/
def calls (events : List Event) : List Call := events.filterMap call?

end Event

/-- What a run leaves behind: the scratch folder, the requests that were made, and the acts upon
    records and plugins in the order in which they were done. -/
structure State where
  scratch : Place
  requests : List Request
  events : List Event

/-- The calls that were made, in order. -/
def State.calls (s : State) : List Call := Event.calls s.events

namespace Engine

/-- An error as the outcome of a run. -/
def lift {α : Type} : Except Error α → Except Failure α
  | .ok v => .ok v
  | .error e => failWith e

/-- The call for an entry of a list. -/
def callFor (command : Command) (context : Context) (index : Nat) (entry : NetworkEntry) :
    Except Error Call :=
  match entry.plugin? with
  | some plugin => .ok ⟨command, plugin, entry.bytes, context⟩
  | none => .error (.missingType index)

/-- Has entries handled in order, up to the first that fails; `index` is the number of entries
    before.  Gives the answers and the acts, those done before included. -/
def delegate {α : Type} (handle : List Call → Call → Except Error α) (command : Command)
    (context : Context) :
    Nat → List NetworkEntry → List Event → Except Error (List α) × List Event
  | _, [], events => (.ok [], events)
  | index, entry :: entries, events =>
    match callFor command context index entry with
    | .error e => (.error e, events)
    | .ok call =>
      match handle (Event.calls events) call with
      | .error e => (.error e, events ++ [.call call])
      | .ok answer =>
        match delegate handle command context (index + 1) entries (events ++ [.call call]) with
        | (.ok answers, events) => (.ok (answer :: answers), events)
        | (.error e, events) => (.error e, events)

/-- Fetches the value of a container: the bytes and the list that they spell. -/
def fetch (w : World) (config : Config) (id : String) (log : List Request) :
    Except Failure (Bytes × NetworkList) × List Request :=
  let session : Session Bytes := do
    let store ← w.registry.connect config
    store.get (config.keyFor id)
  match session w.network log with
  | (.error e, log) => (failWith e, log)
  | (.ok value, log) => ((NetworkList.parse value).map fun list => (value, list), log)

/-- Loads the configuration for a container. -/
def prepare (w : World) (context : Context) (raw : Bytes) : Except Failure Config := do
  ContainerId.check context.containerId
  Config.load w.environment raw

/-- The result of the first entry. -/
def firstResult : List AddResult → Except Error AddResult
  | r :: _ => .ok r
  | [] => .error (.malformedList "network config list is empty")

/-- Sets a container up. -/
def attach (w : World) (context : Context) (raw : Bytes) (s : State) :
    Except Failure AddResult × State :=
  match prepare w context raw with
  | .error e => (.error e, s)
  | .ok config =>
    match fetch w config context.containerId s.requests with
    | (.error e, log) => (.error e, { s with requests := log })
    | (.ok (value, list), log) =>
      let events := s.events ++ [.put context.containerId value]
      match Scratch.put s.scratch context.containerId value w.disk with
      | (.error e, scratch) => (.error e, ⟨scratch, log, events⟩)
      | (.ok (), scratch) =>
        let (r, events) := delegate w.delegator.attach .add context 0 list.entries events
        (lift (r.bind firstResult), ⟨scratch, log, events⟩)

/-- Tears a container down. -/
def detach (w : World) (context : Context) (s : State) : Except Failure Unit × State :=
  match ContainerId.check context.containerId with
  | .error e => (.error e, s)
  | .ok () =>
    let events := s.events ++ [.take context.containerId]
    match Scratch.take w.pid s.scratch context.containerId w.disk with
    | (.error e, scratch) => (.error e, ⟨scratch, s.requests, events⟩)
    | (.ok value, scratch) =>
      match NetworkList.parse value with
      | .error e => (.error e, ⟨scratch, s.requests, events⟩)
      | .ok list =>
        let (r, events) := delegate w.delegator.detach .del context 0 list.entries events
        (lift (r.map fun _ => ()), ⟨scratch, s.requests, events⟩)

end Engine

end NetDelegate
