/-
  NetDelegate/Options.lean
  ========================
  **How the program is called.**  What it is to do, for which container, and where things are can
  be given as options on the command line; an option that is not given there is taken from its
  environment variable, as container runtimes set them.  `Options.read` reads both.

  An option is written `--name value` or `--name=value`.  A value that stands in a word of its
  own is only looked at when the next option or the end comes, so a word that is no option at
  all is complained about before it.
-/
import NetDelegate.ContainerId
import NetDelegate.Environment
import NetDelegate.Plugin.Context
import NetDelegate.Text.Visible

namespace NetDelegate

/-! ### Options -/

/-- What the program is to do. -/
inductive Action where
  | delegate (command : Command)
  | version
  deriving DecidableEq, Repr

/-- The action for a word. -/
def Action.ofWord? (word : String) : Option Action :=
  if word = Command.add.word then some (.delegate .add)
  else if word = Command.del.word then some (.delegate .del)
  else if word = "VERSION" then some .version
  else none

/-- How the log is written. -/
inductive LogFormat where
  | compact
  | json
  deriving DecidableEq, Repr

/-- The format for a word. -/
def LogFormat.ofWord? (word : String) : Option LogFormat :=
  if word = "compact" then some .compact
  else if word = "json" then some .json
  else none

/-- What the program is told. -/
structure Options where
  action : Action
  containerId : Option String
  netns : String
  ifname : String
  args : String
  path : String
  /-- The folder of the scratch records. -/
  stateDir : Bytes
  logFormat : LogFormat
  verbose : Bool
  deriving DecidableEq, Repr

/-- The options that have a value. -/
inductive Parameter where
  | command
  | containerId
  | netns
  | ifname
  | args
  | path
  | stateDir
  | logFormat
  deriving DecidableEq, Repr

namespace Parameter

/-- All of them, in the order in which variables are looked at. -/
def all : List Parameter :=
  [command, containerId, netns, ifname, args, path, stateDir, logFormat]

/-- The name on the command line. -/
def name : Parameter → String
  | command => "command"
  | containerId => "container-id"
  | netns => "netns"
  | ifname => "ifname"
  | args => "args"
  | path => "path"
  | stateDir => "state-dir"
  | logFormat => "log-format"

/-- What stands for the value in messages. -/
def placeholder : Parameter → String
  | command => "COMMAND"
  | containerId => "CONTAINER_ID"
  | netns => "NETNS"
  | ifname => "IFNAME"
  | args => "ARGS"
  | path => "PATH"
  | stateDir => "STATE_DIR"
  | logFormat => "LOG_FORMAT"

/-- The environment variable. -/
def variableName : Parameter → String
  | command => "CNI_COMMAND"
  | containerId => "CNI_CONTAINERID"
  | netns => "CNI_NETNS"
  | ifname => "CNI_IFNAME"
  | args => "CNI_ARGS"
  | path => "CNI_PATH"
  | stateDir => "CNI_LIBKV_STATE_DIR"
  | logFormat => "CNI_LIBKV_LOG_FORMAT"

/-- How the option is written. -/
def label (p : Parameter) : String := "--" ++ p.name ++ " <" ++ p.placeholder ++ ">"

end Parameter

/-! ### Faults -/

/-- Why the program cannot be called like this. -/
inductive UsageFault where
  | unknownArgument (word : String)
  | surplusValue (value option : String)
  | repeated (option : String)
  | missingValue (p : Parameter)
  | invalidValue (p : Parameter) (value : String)
  | notText
  | noCommand
  /-- It is no fault, but help is wanted instead. -/
  | helpWanted
  deriving DecidableEq, Repr

/-- What the program is for. -/
def purpose : String := "CNI meta plugin delegating to network configs stored in etcd or consul"

namespace UsageFault

/-- The wording with all that was given. -/
def wording : UsageFault → String
  | unknownArgument word => "unexpected argument '" ++ visible word ++ "' found"
  | surplusValue value option =>
    "unexpected value '" ++ visible value ++ "' for '" ++ option ++ "' found; no more were expected"
  | repeated option => "the argument '" ++ option ++ "' cannot be used multiple times"
  | missingValue p => "a value is required for '" ++ p.label ++ "' but none was supplied"
  | invalidValue p value => "invalid value '" ++ visible value ++ "' for '" ++ p.label ++ "'"
  | notText => "invalid UTF-8 was detected in one or more arguments"
  | noCommand => "the following required arguments were not provided:"
  | helpWanted => purpose

/-- The message: one line. -/
def message (f : UsageFault) : String := firstLine f.wording

end UsageFault

namespace Options

/-! ### Values -/

/-- The options given so far. -/
structure Draft where
  action : Option Action
  containerId : Option String
  netns : Option String
  ifname : Option String
  args : Option String
  path : Option String
  stateDir : Option Bytes
  logFormat : Option LogFormat
  verbose : Bool
  deriving DecidableEq, Repr

/-- One of a few words. -/
def choice {α : Type} (p : Parameter) (ofWord? : String → Option α) (value : Bytes) :
    Except UsageFault α :=
  if value = [] then .error (.missingValue p)
  else match value.text?.bind ofWord? with
    | some v => .ok v
    | none => .error (.invalidValue p value.textLossy)

/-- Any text. -/
def text (value : Bytes) : Except UsageFault String :=
  match value.text? with
  | some s => .ok s
  | none => .error .notText

/-- A path of the operating system. -/
def folder (p : Parameter) (value : Bytes) : Except UsageFault Bytes :=
  if value = [] then .error (.missingValue p) else .ok value

namespace Draft

/-- Nothing is given. -/
def empty : Draft := ⟨none, none, none, none, none, none, none, none, false⟩

/-- Is the option given? -/
def has (d : Draft) : Parameter → Bool
  | .command => d.action.isSome
  | .containerId => d.containerId.isSome
  | .netns => d.netns.isSome
  | .ifname => d.ifname.isSome
  | .args => d.args.isSome
  | .path => d.path.isSome
  | .stateDir => d.stateDir.isSome
  | .logFormat => d.logFormat.isSome

/-- Sets an option. -/
def set (d : Draft) (p : Parameter) (value : Bytes) : Except UsageFault Draft :=
  match p with
  | .command => (choice p Action.ofWord? value).map fun v => { d with action := some v }
  | .containerId => (text value).map fun v => { d with containerId := some v }
  | .netns => (text value).map fun v => { d with netns := some v }
  | .ifname => (text value).map fun v => { d with ifname := some v }
  | .args => (text value).map fun v => { d with args := some v }
  | .path => (text value).map fun v => { d with path := some v }
  | .stateDir => (folder p value).map fun v => { d with stateDir := some v }
  | .logFormat => (choice p LogFormat.ofWord? value).map fun v => { d with logFormat := some v }

/-- Sets an option that may be given only once. -/
def give (d : Draft) (p : Parameter) (value : Bytes) : Except UsageFault Draft :=
  if d.has p then .error (.repeated p.label) else d.set p value

/-- Takes what is not given from the environment. -/
def fill (env : Environment) (d : Draft) : Except UsageFault Draft :=
  Parameter.all.foldlM (fun d p =>
    if d.has p then .ok d
    else match env p.variableName with
      | some value => d.set p value
      | none => .ok d) d

/-- The folder of the records, if none is given. -/
def defaultStateDir : Bytes := utf8 "/var/lib/cni/libkv"

/-- The options; all but the command can be left out. -/
def finish (d : Draft) : Except UsageFault Options :=
  match d.action with
  | none => .error .noCommand
  | some action => .ok {
      action := action
      containerId := d.containerId
      netns := d.netns.getD ""
      ifname := d.ifname.getD ""
      args := d.args.getD ""
      path := d.path.getD ""
      stateDir := d.stateDir.getD defaultStateDir
      logFormat := d.logFormat.getD .compact
      verbose := d.verbose }

end Draft

/-! ### Words of the command line -/

/-- What a word of the command line looks like. -/
inductive Word where
  /-- Two dashes: no options follow. -/
  | dashes
  | long (name : Bytes) (value : Option Bytes)
  | short (letter : String)
  | plain
  deriving DecidableEq, Repr

/-- A dash. -/
def dash : UInt8 := 45

/-- The sign between a name and its value. -/
def equalsSign : UInt8 := 61

/-- The letter behind a dash; all that follows, if it is no letter. -/
def letterOf (bs : Bytes) : String :=
  match Utf8.pieces bs with
  | some c :: _ => String.ofList [c]
  | _ => bs.textLossy

/-- The look of a word. -/
def Word.ofBytes : Bytes → Word
  | a :: b :: rest =>
    if a ≠ dash then .plain
    else if b ≠ dash then .short (letterOf (b :: rest))
    else if rest = [] then .dashes
    else .long (rest.takeWhile (· ≠ equalsSign)) (rest.dropWhile (· ≠ equalsSign)).tail?
  | _ => .plain

/-- What a name stands for. -/
inductive Switch where
  | parameter (p : Parameter)
  | verbose
  | help
  deriving DecidableEq, Repr

/-- The option with the name. -/
def Switch.ofName? (name : Bytes) : Option Switch :=
  match name.text? with
  | none => none
  | some "verbose" => some .verbose
  | some "help" => some .help
  | some s => (Parameter.all.find? fun p => p.name = s).map .parameter

/-! ### Reading -/

/-- The options given so far, and the one whose value is not looked at yet or still to come. -/
structure Progress where
  draft : Draft
  pending : Option (Parameter × Option Bytes)

/-- The options, that one included. -/
def Progress.settle (g : Progress) : Except UsageFault Draft :=
  match g.pending with
  | none => .ok g.draft
  | some (p, none) => .error (.missingValue p)
  | some (p, some value) => g.draft.give p value

/-- Reads the words of the command line. -/
def readWords (g : Progress) : List Bytes → Except UsageFault Draft
  | [] => g.settle
  | word :: words =>
    match Word.ofBytes word with
    | .dashes =>
      match words with
      | [] => g.settle
      | extra :: _ => .error (.unknownArgument extra.textLossy)
    | .short letter =>
      if letter = "h" then g.settle.bind fun _ => .error .helpWanted
      else .error (.unknownArgument ("-" ++ letter))
    | .long name value =>
      match Switch.ofName? name, value with
      | none, _ => .error (.unknownArgument ("--" ++ name.textLossy))
      | some (.parameter p), some value =>
        match g.settle.bind fun d => d.give p value with
        | .error e => .error e
        | .ok d => readWords ⟨d, none⟩ words
      | some (.parameter p), none =>
        match g.settle with
        | .error e => .error e
        | .ok d => readWords ⟨d, some (p, none)⟩ words
      | some .verbose, some value => .error (.surplusValue value.textLossy "--verbose")
      | some .verbose, none =>
        match g.settle with
        | .error e => .error e
        | .ok d =>
          if d.verbose then .error (.repeated "--verbose")
          else readWords ⟨{ d with verbose := true }, none⟩ words
      | some .help, some value => .error (.surplusValue value.textLossy "--help")
      | some .help, none => g.settle.bind fun _ => .error .helpWanted
    | .plain =>
      match g.pending with
      | some (p, none) => readWords ⟨g.draft, some (p, some word)⟩ words
      | _ => .error (.unknownArgument word.textLossy)

/-- Reads the command line and the environment. -/
def read (env : Environment) (words : List Bytes) : Except UsageFault Options :=
  ((readWords ⟨Draft.empty, none⟩ words).bind (Draft.fill env)).bind Draft.finish

/-! ### Meaning -/

/-- What plugins are told, which needs the id of a container. -/
def context (o : Options) : Except Failure Context :=
  match o.containerId with
  | none =>
    failWith (.invalidEnvironment
      (Parameter.containerId.variableName ++ " is required for ADD and DEL"))
  | some id =>
    (ContainerId.check id).map fun _ =>
      ⟨id, o.netns, o.ifname, o.args, SearchPath.ofText o.path⟩

/-- Checks that the action has what it needs. -/
def check (o : Options) : Except Failure Unit :=
  match o.action with
  | .version => .ok ()
  | .delegate _ => o.context.map fun _ => ()

end Options

end NetDelegate
