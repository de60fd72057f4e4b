/-
  NetDelegate/Config/Conf.lean
  ============================
  **The network configuration as it is handed in.**  `Conf` holds what the text says, with empty
  texts for members that are absent; nothing is checked or expanded.
-/
import NetDelegate.NameMap
import NetDelegate.Json.Printer
import NetDelegate.Json.Record

namespace NetDelegate

/-- A network configuration as written. -/
structure Conf where
  version : Option String
  name : String
  kind : String
  backend : String
  uri : String
  basePath : String
  options : Settings
  deriving DecidableEq

namespace Conf

/-- The configuration as an object: every member, in the order of the fields. -/
def toJson (c : Conf) : Json :=
  .object [
    ("cniVersion", match c.version with | none => .null | some v => .string v),
    ("name", .string c.name),
    ("type", .string c.kind),
    ("storeBackend", .string c.backend),
    ("uri", .string c.uri),
    ("basePath", .string c.basePath),
    ("storeConfig", .object (c.options.entries.map fun e => (e.1, .string e.2)))]

/-- The members read so far. -/
structure Draft where
  version : Option (Option String)
  name : Option String
  kind : Option String
  backend : Option String
  uri : Option String
  basePath : Option String
  options : Option Settings

/-- Reads settings: an object of texts. -/
def readSettings (depth : Nat) (input : Bytes) : Except Json.Stop (Settings × Bytes) := do
  let (pairs, rest) ← Json.readObject (fun _ => Json.readString) depth input
  .ok (NameMap.ofList pairs, rest)

/-- How a configuration is read. -/
def record : Json.Record Draft where
  title := "struct LibKvConf"
  fields := [
    Json.Record.field "cniVersion" false Draft.version
      (fun d v => { d with version := some v }) (fun _ => Json.readString?),
    Json.Record.field "name" false Draft.name
      (fun d v => { d with name := some v }) (fun _ => Json.readString),
    Json.Record.field "type" false Draft.kind
      (fun d v => { d with kind := some v }) (fun _ => Json.readString),
    Json.Record.field "storeBackend" true Draft.backend
      (fun d v => { d with backend := some v }) (fun _ => Json.readString),
    Json.Record.field "uri" true Draft.uri
      (fun d v => { d with uri := some v }) (fun _ => Json.readString),
    Json.Record.field "basePath" false Draft.basePath
      (fun d v => { d with basePath := some v }) (fun _ => Json.readString),
    Json.Record.field "storeConfig" false Draft.options
      (fun d v => { d with options := some v }) readSettings]
  initial := ⟨none, none, none, none, none, none, none⟩

/-- The configuration that the members make. -/
def Draft.finish (d : Draft) : Conf where
  version := d.version.join
  name := d.name.getD ""
  kind := d.kind.getD ""
  backend := d.backend.getD ""
  uri := d.uri.getD ""
  basePath := d.basePath.getD ""
  options := d.options.getD NameMap.empty

/-- Reads a configuration. -/
def parse (text : Bytes) : Except Json.Error Conf := (record.parse text).map Draft.finish

end Conf

end NetDelegate
