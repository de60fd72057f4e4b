/-
  NetDelegate/Proofs/Plugin/Report.lean
  =====================================
  **Errors pass through plugins that delegate in turn.**  A report is read as it was written
  (`ErrorReport.parse_toJson`), with optional members or without.  So where a plugin fails and
  prints what a run of this program prints, the call of it fails with the code and the message of
  the error there.
-/
import NetDelegate.Program
import NetDelegate.Proofs.Json.Compact
import NetDelegate.Proofs.Json.Typed

namespace NetDelegate

namespace ErrorReport

open Json (Record)

/-! ### Reading a report -/

/-- The code that a value is. -/
def code? (v : Json) : Option UInt32 := (v.whole? 0xFFFFFFFF).map UInt32.ofNat

/-- What the value of a field comes to. -/
def takeField? (name : String) (d : Draft) (v : Json) : Option Draft :=
  if name = "cniVersion" then v.textOrNull?.map fun x => { d with version := some x }
  else if name = "code" then (code? v).map fun c => { d with code := some c }
  else if name = "msg" then v.text?.map fun s => { d with message := some s }
  else v.textOrNull?.map fun x => { d with details := some x }

theorem isReadBy_readCode (v : Json.Outline .value) : v.IsReadBy readCode (v.value?.bind code?) := by
  intro before rest hrest
  have hread := Json.isReadBy_readWhole 0xFFFFFFFF "u32" v before hrest
  have hcode : v.value?.bind code? =
      (v.value?.bind (Json.whole? 0xFFFFFFFF)).map UInt32.ofNat := by
    rw [Option.map_bind]
    rfl
  rw [readCode, Json.Outline.toOption_bind_ok UInt32.ofNat, hread, hcode, Option.map_map,
    Option.map_map]
  rfl

theorem readsFields (depth : Nat) : record.ReadsFields depth takeField? := by
  intro f hf d v
  simp only [record, List.mem_cons, List.not_mem_nil, or_false] at hf
  rcases hf with rfl | rfl | rfl | rfl
  · exact Record.isReadBy_field_value (Json.isReadBy_readString? v) d
  · exact Record.isReadBy_field_value (isReadBy_readCode v) d
  · exact Record.isReadBy_field_value (Json.isReadBy_readString v) d
  · exact Record.isReadBy_field_value (Json.isReadBy_readString? v) d

/-! ### Writing a report -/

/-- The members of a report. -/
def members (r : ErrorReport) : Json.Members :=
  optional "cniVersion" r.version ++
    [("code", .number (.natural r.code.toNat)), ("msg", .string r.message)] ++
    optional "details" r.details

theorem code?_toNat (c : UInt32) : code? (.number (.natural c.toNat)) = some c := by
  have hrange : c.toNat ≤ 0xFFFFFFFF := Nat.le_of_lt_succ c.toNat_lt
  rw [code?, Json.whole?, if_pos hrange, Option.map_some, UInt32.ofNat_toNat]

section
variable (d : Draft)

theorem take_version (h : d.version = none) (s : String) :
    record.takeValue? takeField? d ("cniVersion", .string s) =
      some { d with version := some (some s) } := by
  simp [Record.takeValue?, Record.field?, record, Record.field, takeField?, h, Json.textOrNull?]

theorem take_code (h : d.code = none) (c : UInt32) :
    record.takeValue? takeField? d ("code", .number (.natural c.toNat)) =
      some { d with code := some c } := by
  simp [Record.takeValue?, Record.field?, record, Record.field, takeField?, h, code?_toNat]

theorem take_message (h : d.message = none) (s : String) :
    record.takeValue? takeField? d ("msg", .string s) = some { d with message := some s } := by
  simp [Record.takeValue?, Record.field?, record, Record.field, takeField?, h, Json.text?]

theorem take_details (h : d.details = none) (s : String) :
    record.takeValue? takeField? d ("details", .string s) =
      some { d with details := some (some s) } := by
  simp [Record.takeValue?, Record.field?, record, Record.field, takeField?, h, Json.textOrNull?]

end

/-- The members that are written give the report, whether the optional ones are there or not. -/
theorem foldlM_members (r : ErrorReport) :
    r.members.foldlM (record.takeValue? takeField?) record.initial =
      some ⟨r.version.map some, some r.code, some r.message, r.details.map some⟩ := by
  obtain ⟨version, code, message, details⟩ := r
  have hinitial : record.initial = ⟨none, none, none, none⟩ := rfl
  cases version with
  | none =>
    cases details with
    | none => simp [members, optional, hinitial, take_code, take_message]
    | some d => simp [members, optional, hinitial, take_code, take_message, take_details]
  | some v =>
    cases details with
    | none => simp [members, optional, hinitial, take_version, take_code, take_message]
    | some d =>
      simp [members, optional, hinitial, take_version, take_code, take_message, take_details]

theorem isExact_of_mem_members (r : ErrorReport) : ∀ p ∈ r.members, p.2.IsExact := by
  have hoptional : ∀ (name : String) (x : Option String), ∀ p ∈ optional name x, p.2.IsExact := by
    intro name x p hp
    cases x with
    | none => cases hp
    | some s =>
      rw [optional, List.mem_singleton] at hp
      rw [hp]
      exact .string s
  intro p hp
  simp only [members, List.append_assoc, List.mem_append, List.mem_cons, List.not_mem_nil,
    or_false] at hp
  rcases hp with hversion | (rfl | rfl) | hdetails
  · exact hoptional _ _ p hversion
  · have hword : r.code.toNat ≤ Json.maxWord := Nat.le_trans (Nat.le_of_lt r.code.toNat_lt) (by decide)
    exact .number hword
  · exact .string r.message
  · exact hoptional _ _ p hdetails

/-- **A report is read as it was written,** with blanks around it. -/
theorem parse_toJson (before after : Json.Blanks) (r : ErrorReport) :
    parse (before.1 ++ (r.toJson.bytes ++ after.1)) = .ok r := by
  have hne : r.members ≠ [] := by simp [members]
  have hrecord := Record.toOption_parse_bytes (rfl : Json.maxDepth = 126 + 1) (readsFields 126)
    before after hne r.isExact_of_mem_members
  rw [foldlM_members] at hrecord
  have hjoin : ∀ x : Option String, (x.map some).join = x := by
    intro x
    cases x with
    | none => rfl
    | some s => rfl
  have hparse : record.parse (before.1 ++ (r.toJson.bytes ++ after.1)) =
      .ok ⟨r.version.map some, some r.code, some r.message, r.details.map some⟩ :=
    Json.toOption_eq_some_iff.1 hrecord
  rw [parse, hparse]
  simp only [Except.map, Draft.finish, hjoin, Option.getD_some]

/-- The line feed behind a report is a blank. -/
theorem parse_line (r : ErrorReport) : parse (Program.line r.toJson) = .ok r :=
  parse_toJson Json.noBlanks ⟨[Program.lineEnd], by simp [Program.lineEnd, Json.isSpace]⟩ r

end ErrorReport

namespace Plugin

/-- **Errors survive nesting.**  A report is read as it was written.  So if a plugin ends badly,
    at any status and with anything on standard error, after it has printed the report of an error
    on a line, then the outer error is about that plugin, with the code and the message of the
    inner error, and has that code itself. -/
theorem nested_error_eq :
    (∀ r : ErrorReport, ErrorReport.parse r.toJson.bytes = .ok r) ∧
      ∀ (e : Error) (version : Option String) (ps : Processes) (earlier : List Call) (call : Call)
        (i : Invocation) (status : ExitStatus) (errors : Bytes),
        let exit : Exit := ⟨status, Program.line (ErrorReport.ofError e version).toJson, errors⟩
        exitError call.plugin i.binary exit = .pluginFailed call.plugin (some e.code) e.message ∧
          (exitError call.plugin i.binary exit).code = e.code ∧
          (invocation ps.isFile call = .ok i → ps.run earlier i = .ended exit → status ≠ .code 0 →
            execute ps earlier call =
              .error (.pluginFailed call.plugin (some e.code) e.message)) := by
  have hparse : ∀ (after : Json.Blanks) (r : ErrorReport),
      ErrorReport.parse (r.toJson.bytes ++ after.1) = .ok r := by
    intro after r
    exact ErrorReport.parse_toJson Json.noBlanks after r
  constructor
  · intro r
    have hread := hparse Json.noBlanks r
    rw [show Json.noBlanks.1 = [] from rfl, List.append_nil] at hread
    exact hread
  · intro e version ps earlier call i status errors exit
    -- the line feed behind the report is a blank
    have hread : ErrorReport.parse exit.output = .ok (.ofError e version) :=
      hparse ⟨[Program.lineEnd], by simp [Program.lineEnd, Json.isSpace]⟩ (.ofError e version)
    have hexit : exitError call.plugin i.binary exit =
        .pluginFailed call.plugin (some e.code) e.message := by
      rw [exitError, hread]
      rfl
    refine ⟨hexit, ?_, ?_⟩
    · rw [hexit]
      rfl
    · intro hstart hend hstatus
      rw [execute, hstart]
      dsimp only [bind, Except.bind]
      rw [hend]
      dsimp only
      rw [if_neg hstatus, hexit]

/-- A plugin that delegates in turn, and lacks the type of a network there. -/
theorem nested_error_eq_of_missingType :
    let call : Call := ⟨.add, "bridge", [], ⟨"a", "/run/ns", "eth0", "", ["/bin"]⟩⟩
    let exit : Exit :=
      ⟨.code 1, Program.line (ErrorReport.ofError (.missingType 0) (some "0.3.1")).toJson, [33]⟩
    execute ⟨fun _ => true, fun _ _ => .ended exit⟩ [] call =
      .error (.pluginFailed "bridge" (some (Error.missingType 0).code) (Error.missingType 0).message) := by
  intro call exit
  let i : Invocation := ⟨"/bin/bridge", .add, "a", "/run/ns", "eth0", "", "/bin", []⟩
  have hi : invocation (fun _ => true) call = .ok i := by decide +kernel
  exact (nested_error_eq.2 (.missingType 0) (some "0.3.1") ⟨fun _ => true, fun _ _ => .ended exit⟩
    [] call i (.code 1) [33]).2.2 hi rfl (by decide)

end Plugin

end NetDelegate
