/-
  NetDelegate/ErrorReport.lean
  ============================
  **The error object that plugins and runtimes exchange.**  It has a code and a message, and may
  have the version of the network interface and further details; members that are absent are
  not written.
-/
import NetDelegate.Error
import NetDelegate.Json.Printer
import NetDelegate.Json.Record

namespace NetDelegate

/-- An error object. -/
structure ErrorReport where
  version : Option String
  code : UInt32
  message : String
  details : Option String
  deriving DecidableEq, Repr

namespace ErrorReport

/-- The report of an error. -/
def ofError (e : Error) (version : Option String) : ErrorReport :=
  ⟨version, e.code, e.message, none⟩

/-- The member for a text, if there is one. -/
def optional (name : String) : Option String → List (String × Json)
  | none => []
  | some s => [(name, .string s)]

/-- The report as an object. -/
def toJson (r : ErrorReport) : Json :=
  .object (optional "cniVersion" r.version ++
    [("code", .number (.natural r.code.toNat)), ("msg", .string r.message)] ++
    optional "details" r.details)

/-- The members read so far. -/
structure Draft where
  version : Option (Option String)
  code : Option UInt32
  message : Option String
  details : Option (Option String)

/-- Reads a number of 32 bits. -/
def readCode (input : Bytes) : Except Json.Stop (UInt32 × Bytes) := do
  let (n, rest) ← Json.readWhole 0xFFFFFFFF "u32" input
  .ok (UInt32.ofNat n, rest)

/-- How a report is read. -/
def record : Json.Record Draft where
  title := "struct CniError"
  fields := [
    Json.Record.field "cniVersion" false Draft.version
      (fun d v => { d with version := some v }) (fun _ => Json.readString?),
    Json.Record.field "code" true Draft.code
      (fun d v => { d with code := some v }) (fun _ => readCode),
    Json.Record.field "msg" true Draft.message
      (fun d v => { d with message := some v }) (fun _ => Json.readString),
    Json.Record.field "details" false Draft.details
      (fun d v => { d with details := some v }) (fun _ => Json.readString?)]
  initial := ⟨none, none, none, none⟩

/-- The report that the members make. -/
def Draft.finish (d : Draft) : ErrorReport :=
  ⟨d.version.join, d.code.getD 0, d.message.getD "", d.details.join⟩

/-- Reads a report. -/
def parse (text : Bytes) : Except Json.Error ErrorReport := (record.parse text).map Draft.finish

end ErrorReport

end NetDelegate
