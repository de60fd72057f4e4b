/-
  NetDelegate/Proofs/Program/Output.lean
  ======================================
  **What a run prints, and its status.**  A run that sets up prints the output of the first plugin
  and nothing else, one that tears down prints nothing; a run that fails prints the report of the
  first failure on one line (`IsReportOf`).  `Concludes` lists these ways to end with what has to
  happen for each, and leaves no choice (`run_output_iff`).
-/
import NetDelegate.Proofs.Engine.Outcome
import NetDelegate.Proofs.Json.Line
import NetDelegate.Proofs.Json.Member
import NetDelegate.Proofs.Plugin.Execution
import NetDelegate.Proofs.Plugin.Report

namespace NetDelegate.Program

open Engine (Answered AttachOutcome DetachOutcome IsCallFor Retrieval)

/-! ### Reports -/

/-- The version of an answer is the last that the input names, if that is a string. -/
theorem versionOf?_eq_some_iff {input : Bytes} {s : String} :
    versionOf? input = some s ↔ Json.HasMember input "cniVersion" (.string s) := by
  have htext {v : Json} : v.text? = some s ↔ v = .string s := by
    cases v with
    | string t => simp [Json.text?]
    | _ => simp [Json.text?]
  rw [← Json.exists_parse_member?_iff, versionOf?]
  cases Json.parse input with
  | error e => simp
  | ok j => simp [Option.bind_eq_some_iff, htext]

/-- The output is the report of an error on one line, with the version that the input names. -/
def IsReportOf (e : Error) (input output : Bytes) : Prop :=
  ∃ version : Option String,
    output = (ErrorReport.ofError e version).toJson.bytes ++ [lineEnd] ∧
      lineEnd ∉ (ErrorReport.ofError e version).toJson.bytes ∧
      ErrorReport.parse output = .ok (.ofError e version) ∧
      ∀ s, version = some s ↔ Json.HasMember input "cniVersion" (.string s)

theorem isExact_toJson (r : ErrorReport) : r.toJson.IsExact := by
  refine .object ?_ r.isExact_of_mem_members
  obtain ⟨version, code, message, details⟩ := r
  cases version with
  | none => cases details with
    | none => simp [ErrorReport.optional]
    | some d => simp [ErrorReport.optional]
  | some v => cases details with
    | none => simp [ErrorReport.optional]
    | some d => simp [ErrorReport.optional]

theorem isReportOf_line (e : Error) (input : Bytes) :
    IsReportOf e input (line (errorAnswer e input)) := by
  refine ⟨versionOf? input, rfl, (isExact_toJson _).lineFeed_notMem, ?_, ?_⟩
  · exact ErrorReport.parse_line (.ofError e (versionOf? input))
  · intro s
    exact versionOf?_eq_some_iff

/-- There is one report of an error only. -/
theorem IsReportOf.eq_line {e : Error} {input output : Bytes} (h : IsReportOf e input output) :
    output = line (errorAnswer e input) := by
  obtain ⟨version, rfl, -, -, hversion⟩ := h
  have hsame : version = versionOf? input := by
    ext s
    rw [hversion, versionOf?_eq_some_iff]
  rw [hsame]
  rfl

/-! ### Failures -/

/-- The first failure that a run meets which sets up or tears down. -/
inductive Fails (m : Machine) (o : Options) (input : Input) : Command → Failure → Prop
  -- The input cannot be read to its end.
  | unread {command : Command} {fault : IoFault} (hfault : input.fault = some fault) :
      Fails m o input command (.error (.io fault))
  -- The options name no container.
  | refused {command : Command} {f : Failure} (hfault : input.fault = none)
      (hcontext : o.context = .error f) : Fails m o input command f
  -- A stage of setting up fails.
  | add {context : Context} {f : Failure} (hfault : input.fault = none)
      (hcontext : o.context = .ok context)
      (hattach : AttachOutcome m.world context input.bytes (m.start o.stateDir) (.error f)) :
      Fails m o input .add f
  -- A stage of tearing down fails.
  | del {context : Context} {f : Failure} (hfault : input.fault = none)
      (hcontext : o.context = .ok context)
      (hdetach : DetachOutcome m.world context (m.start o.stateDir) (.error f)) :
      Fails m o input .del f

/-- How a run ends that sets up or tears down: its status and what it prints. -/
inductive Concludes (m : Machine) (ps : Processes) (o : Options) (input : Input) :
    Command → Nat → Bytes → Prop
  -- Every entry is added, and the output is that of the process for the first.
  | added {context : Context} {value : Bytes} {list : NetworkList} {log : List Request}
      {first : Call} {calls : List Call} {answers : List AddResult} {output errors : Bytes}
      (hfault : input.fault = none) (hcontext : o.context = .ok context)
      (hlist : Retrieval m.world context input.bytes [] (.ok (value, list)) log)
      (hput : (Scratch.put (m.place o.stateDir) context.containerId value m.disk).1 = .ok ())
      (hcalls : List.Forall₂ (IsCallFor .add context) list.entries (first :: calls))
      (hanswers : Answered m.delegator.attach [] (first :: calls) answers)
      (hfirst : Plugin.EndsWith ps [] first ⟨.code 0, output, errors⟩) :
      Concludes m ps o input .add 0 output
  -- Every entry is deleted, and nothing is printed.
  | deleted {context : Context} {value : Bytes} {list : NetworkList} {calls : List Call}
      {answers : List Unit} (hfault : input.fault = none) (hcontext : o.context = .ok context)
      (htake : (Scratch.take m.pid (m.place o.stateDir) context.containerId m.disk).1 = .ok value)
      (hparse : NetworkList.parse value = .ok list)
      (hcalls : List.Forall₂ (IsCallFor .del context) list.entries calls)
      (hanswers : Answered m.delegator.detach [] calls answers) :
      Concludes m ps o input .del 0 []
  -- The first failure is an error, and its report is printed.
  | failed {command : Command} {e : Error} {output : Bytes}
      (hfails : Fails m o input command (.error e)) (houtput : IsReportOf e input.bytes output) :
      Concludes m ps o input command 1 output
  -- The program breaks down, and nothing is printed.
  | brokeDown {command : Command} {message : String}
      (hfails : Fails m o input command (.breakdown message)) :
      Concludes m ps o input command 101 []

section
variable {m : Machine} {ps : Processes} {o : Options} {input : Input} {command : Command}

theorem ended_of_ok {α : Type} (output : α → Bytes) (bytes stateDir : Bytes)
    {x : Except Failure α × State} {v : α} (h : x.1 = .ok v) :
    ended output bytes stateDir x = ⟨0, output v, some (stateDir, x.2)⟩ := by
  obtain ⟨r, after⟩ := x
  cases h
  rfl

theorem ended_of_error {α : Type} (output : α → Bytes) (bytes stateDir : Bytes)
    {x : Except Failure α × State} {f : Failure} (h : x.1 = .error f) :
    ended output bytes stateDir x = failed f bytes (some (stateDir, x.2)) := by
  obtain ⟨r, after⟩ := x
  cases h
  rfl

section
variable {context : Context} (hfault : input.fault = none) (hcontext : o.context = .ok context)
include hfault hcontext

theorem delegate_add :
    delegate m o .add input = ended AddResult.bytes input.bytes o.stateDir
      (Engine.attach m.world context input.bytes (m.start o.stateDir)) := by
  simp only [delegate, hfault, hcontext]

theorem delegate_del :
    delegate m o .del input = ended (fun _ => []) input.bytes o.stateDir
      (Engine.detach m.world context (m.start o.stateDir)) := by
  simp only [delegate, hfault, hcontext]

end

/-- A run fails with the first failure that it meets. -/
theorem Fails.delegate_eq {f : Failure} (h : Fails m o input command f) :
    ∃ traces, delegate m o command input = failed f input.bytes traces := by
  cases h with
  | unread hfault => exact ⟨none, by simp only [delegate, hfault]⟩
  | refused hfault hcontext => exact ⟨none, by simp only [delegate, hfault, hcontext]⟩
  | add hfault hcontext hattach =>
    exact ⟨_, (delegate_add hfault hcontext).trans
      (ended_of_error _ _ _ (Engine.attachOutcome_iff.1 hattach))⟩
  | del hfault hcontext hdetach =>
    exact ⟨_, (delegate_del hfault hcontext).trans
      (ended_of_error _ _ _ (Engine.detachOutcome_iff.1 hdetach))⟩

theorem concludes_of_fails {f : Failure} (h : Fails m o input command f) :
    Concludes m ps o input command (delegate m o command input).status
      (delegate m o command input).output := by
  obtain ⟨traces, hrun⟩ := h.delegate_eq
  rw [hrun]
  cases f with
  | error e => exact .failed h (isReportOf_line e input.bytes)
  | breakdown message => exact .brokeDown h

/-- The output of the process for the first entry is the result of setting up. -/
theorem endsWith_of_answered {first : Call} {calls : List Call} {r : AddResult}
    {answers : List AddResult}
    (h : Answered (Delegator.ofProcesses ps).attach [] (first :: calls) (r :: answers)) :
    ∃ errors, Plugin.EndsWith ps [] first ⟨.code 0, r.bytes, errors⟩ := by
  cases h with
  | cons hfirst hlater =>
    exact Plugin.execute_eq_ok_iff.1 (Delegator.attach_eq_ok_iff.1 hfirst).1

theorem concludes_add (hps : m.delegator = Delegator.ofProcesses ps) {context : Context}
    (hfault : input.fault = none) (hcontext : o.context = .ok context) :
    Concludes m ps o input .add (delegate m o .add input).status
      (delegate m o .add input).output := by
  have houtcome := Engine.attachOutcome m.world context input.bytes (m.start o.stateDir)
  cases hends : (Engine.attach m.world context input.bytes (m.start o.stateDir)).1 with
  | error f => exact concludes_of_fails (.add hfault hcontext (hends ▸ houtcome))
  | ok r =>
    rw [hends] at houtcome
    rw [delegate_add hfault hcontext, ended_of_ok _ _ _ hends]
    cases houtcome with
    | attached hlist hput hcalls hanswers =>
      cases hcalls with
      | cons hcall hcalls =>
        -- the result is the answer to the first call, which is the output of its process
        have hadded : Answered m.delegator.attach [] _ _ := hanswers
        obtain ⟨errors, hfirst⟩ := endsWith_of_answered (hps ▸ hadded)
        exact .added hfault hcontext hlist hput (.cons hcall hcalls) hadded hfirst

theorem concludes_del {context : Context} (hfault : input.fault = none)
    (hcontext : o.context = .ok context) :
    Concludes m ps o input .del (delegate m o .del input).status
      (delegate m o .del input).output := by
  have houtcome := Engine.detachOutcome m.world context (m.start o.stateDir)
  cases hends : (Engine.detach m.world context (m.start o.stateDir)).1 with
  | error f => exact concludes_of_fails (.del hfault hcontext (hends ▸ houtcome))
  | ok u =>
    rw [hends] at houtcome
    rw [delegate_del hfault hcontext, ended_of_ok _ _ _ hends]
    cases houtcome with
    | detached htake hparse hcalls hanswers =>
      exact .deleted hfault hcontext htake hparse hcalls hanswers

/-- A run that sets up or tears down ends in one of the ways. -/
theorem concludes_delegate (hps : m.delegator = Delegator.ofProcesses ps) (o : Options)
    (command : Command) (input : Input) :
    Concludes m ps o input command (delegate m o command input).status
      (delegate m o command input).output := by
  cases hfault : input.fault with
  | some fault => exact concludes_of_fails (.unread hfault)
  | none =>
    cases hcontext : o.context with
    | error f => exact concludes_of_fails (.refused hfault hcontext)
    | ok context =>
      cases command with
      | add => exact concludes_add hps hfault hcontext
      | del => exact concludes_del hfault hcontext

/-- The ways to end leave no choice. -/
theorem Concludes.delegate_eq (hps : m.delegator = Delegator.ofProcesses ps) {status : Nat}
    {output : Bytes} (h : Concludes m ps o input command status output) :
    (delegate m o command input).status = status ∧ (delegate m o command input).output = output := by
  cases h with
  | added hfault hcontext hlist hput hcalls hanswers hfirst =>
    cases hanswers with
    | cons hanswer hanswers =>
      have hends := Engine.attachOutcome_iff.1 (.attached (w := m.world) (s := m.start o.stateDir)
        hlist hput hcalls (.cons hanswer hanswers))
      rw [hps, Delegator.attach_eq_ok_iff, Plugin.execute_eq_ok_iff.2 ⟨_, hfirst⟩] at hanswer
      rw [delegate_add hfault hcontext, ended_of_ok _ _ _ hends]
      exact ⟨rfl, (Except.ok.inj hanswer.1).symm⟩
  | deleted hfault hcontext htake hparse hcalls hanswers =>
    have hends := Engine.detachOutcome_iff.1
      (.detached (w := m.world) (s := m.start o.stateDir) htake hparse hcalls hanswers)
    rw [delegate_del hfault hcontext, ended_of_ok _ _ _ hends]
    exact ⟨rfl, rfl⟩
  | failed hfails houtput =>
    obtain ⟨traces, hrun⟩ := hfails.delegate_eq
    rw [hrun]
    exact ⟨rfl, houtput.eq_line.symm⟩
  | brokeDown hfails =>
    obtain ⟨traces, hrun⟩ := hfails.delegate_eq
    rw [hrun]
    exact ⟨rfl, rfl⟩

section
variable {words : List Bytes} (ho : Options.read m.environment words = .ok o)
include ho

theorem run_version (haction : o.action = .version) (input : Input) :
    run m words input = ⟨0, line versionAnswer, none⟩ := by
  simp only [run, ho, haction]

theorem run_delegate (haction : o.action = .delegate command) (input : Input) :
    run m words input = delegate m o command input := by
  simp only [run, ho, haction]

end

/-- **What a run prints, and its status.**  Let the options be ones that can be read.  Asked for
    its versions, the program answers with them.  Otherwise it ends in just one way: with status 0,
    every entry having been handled, after printing the output of the first entry's process when
    it sets up and nothing when it tears down; with status 1 after printing the report of the
    first failure, on one line; or with a breakdown and nothing printed. -/
theorem run_output_iff (hps : m.delegator = Delegator.ofProcesses ps) {words : List Bytes}
    (ho : Options.read m.environment words = .ok o) (input : Input) :
    let done := run m words input
    (o.action = .version → done.status = 0 ∧ done.output = line versionAnswer) ∧
      ∀ command, o.action = .delegate command → ∀ status output,
        done.status = status ∧ done.output = output ↔
          Concludes m ps o input command status output := by
  intro done
  constructor
  · intro haction
    rw [show done = _ from run_version ho haction input]
    exact ⟨rfl, rfl⟩
  · intro command haction status output
    rw [show done = _ from run_delegate ho haction input]
    constructor
    · rintro ⟨rfl, rfl⟩
      exact concludes_delegate hps o command input
    · intro h
      exact h.delegate_eq hps

end

/-- The container `a` is to be torn down. -/
def teardownEnvironment : Environment := fun name =>
  if name = "CNI_COMMAND" then some (utf8 "DEL")
  else if name = "CNI_CONTAINERID" then some (utf8 "a")
  else if name = "CNI_PATH" then some (utf8 "/bin")
  else none

/-- What the program is told then. -/
def teardownOptions : Options where
  action := .delegate .del
  containerId := some "a"
  netns := ""
  ifname := ""
  args := ""
  path := "/bin"
  stateDir := Options.Draft.defaultStateDir
  logFormat := .compact
  verbose := false

theorem read_teardownEnvironment :
    Options.read teardownEnvironment [] = .ok teardownOptions :=
  Json.toOption_eq_some_iff.1 (by decide +kernel)

/-- Every plugin is there, and its process ends like this. -/
def uniformProcesses (exit : Exit) : Processes := ⟨fun _ => true, fun _ _ => .ended exit⟩

/-- A machine with such plugins, and with this in the place of the records. -/
def teardownMachine (exit : Exit) (place : Place) : Machine where
  environment := teardownEnvironment
  network _ _ := .unreachable
  delegator := Delegator.ofProcesses (uniformProcesses exit)
  pid := 4
  place _ := place

/-- A folder with the record of the container: a list with one entry. -/
def recordedPlace : Place :=
  .present (.folder Scratch.folderMode
    [(Scratch.recordName "a", .file (utf8 "[\x7b\"type\":\"b\"\x7d]") Scratch.recordMode)])

/-- A container is torn down, and nothing is printed. -/
theorem concludes_teardown :
    Concludes (teardownMachine ⟨.code 0, [], []⟩ recordedPlace) (uniformProcesses ⟨.code 0, [], []⟩)
      teardownOptions ([] : Bytes) .del 0 [] :=
  ((run_output_iff rfl read_teardownEnvironment ([] : Bytes)).2 .del rfl 0 []).1
    (by decide +kernel)

/-- Arrays inside each other. -/
def nestedArrays : Nat → Json.Outline .value
  | 0 => .emptyArray Json.noBlanks
  | depth + 1 => .array (.lastItem Json.noBlanks (nestedArrays depth) Json.noBlanks)

/-- An input that names a version, with a member that is nested one level too deep. -/
def nestedInput : Json.Outline .value :=
  .object (.member (Json.plainName "cniVersion" (by decide)) Json.noBlanks
    (.string (Json.plainMarks "0.3.1" (by decide))) Json.noBlanks
    (.lastMember (Json.plainName "x" (by decide)) Json.noBlanks (nestedArrays 126) Json.noBlanks))

/-- **A report can lack the version that the input names:** the input is a value with a string for
    the version, but it is not read, as it is nested too deep. -/
theorem report_lacks_version :
    let done := run (teardownMachine ⟨.code 0, [], []⟩ .missing) [] (nestedInput.text : Bytes)
    (nestedInput.value?.bind fun j => (j.member? "cniVersion").bind Json.text?) = some "0.3.1" ∧
      done.status = 1 ∧
      (ErrorReport.parse done.output).toOption.map (·.version) = some none := by
  decide +kernel

end NetDelegate.Program
