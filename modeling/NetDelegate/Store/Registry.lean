/-
  NetDelegate/Store/Registry.lean
  ===============================
  **The stores that are known,** by name.  Names are kept in small letters; a later entry under
  the same name replaces an earlier one.
-/
import NetDelegate.Store.Consul
import NetDelegate.Store.Etcd

namespace NetDelegate

/-- The stores that are known. -/
structure Registry where
  connectors : NameMap Connector

namespace Registry

/-- No store. -/
def empty : Registry := ⟨NameMap.empty⟩

/-- Adds a store. -/
def withBackend (r : Registry) (tag : String) (connector : Connector) : Registry :=
  ⟨r.connectors.insert (lowercase tag) connector⟩

/-- The stores of this library. -/
def builtin : Registry :=
  (empty.withBackend Etcd.backend Etcd.connect).withBackend Consul.backend Consul.connect

/-- The names of the stores, in ascending order. -/
def backends (r : Registry) : List String := r.connectors.names

/-- Opens a connection to the store that the configuration names. -/
def connect (r : Registry) (config : Config) : Session Store :=
  match r.connectors.get? config.backend with
  | some connector => connector config
  | none => Session.fail (.unsupportedBackend config.backend)

end Registry

end NetDelegate
