/-
  NetDelegate/Error.lean
  ======================
  **Why a delegation fails.**  Every cause has a wording, a category, which tells how far the
  work had come, and the code that is reported to the runtime.  `Failure` adds to these the one
  way of ending that is no error of the delegation: a breakdown of the program itself.
-/
import NetDelegate.Command
import NetDelegate.Duration
import NetDelegate.Json.Issue

namespace NetDelegate

/-- Faults that the operating system reports. -/
inductive Errno where
  | noEntry
  | device
  | accessDenied
  | exists
  | notDirectory
  | isDirectory
  | invalidArgument
  | tooManyFiles
  | noSpace
  | readOnly
  | nameTooLong
  | directoryNotEmpty
  | tooManyLinks
  deriving DecidableEq, Repr

namespace Errno

/-- The number of a fault. -/
def number : Errno → Nat
  | noEntry => 2
  | device => 5
  | accessDenied => 13
  | «exists» => 17
  | notDirectory => 20
  | isDirectory => 21
  | invalidArgument => 22
  | tooManyFiles => 24
  | noSpace => 28
  | readOnly => 30
  | nameTooLong => 36
  | directoryNotEmpty => 39
  | tooManyLinks => 40

/-- The meaning of a fault. -/
def meaning : Errno → String
  | noEntry => "No such file or directory"
  | device => "Input/output error"
  | accessDenied => "Permission denied"
  | «exists» => "File exists"
  | notDirectory => "Not a directory"
  | isDirectory => "Is a directory"
  | invalidArgument => "Invalid argument"
  | tooManyFiles => "Too many open files"
  | noSpace => "No space left on device"
  | readOnly => "Read-only file system"
  | nameTooLong => "File name too long"
  | directoryNotEmpty => "Directory not empty"
  | tooManyLinks => "Too many levels of symbolic links"

/-- The wording of a fault. -/
def text (e : Errno) : String :=
  e.meaning ++ " (os error " ++ String.ofList (Json.Number.decimalDigits e.number) ++ ")"

end Errno

/-- Why reading or writing failed. -/
inductive IoFault where
  | system (e : Errno)
  | other (message : String)
  deriving DecidableEq, Repr

/-- The wording of a fault. -/
def IoFault.text : IoFault → String
  | system e => e.text
  | other message => message

/-- Why a delegation fails. -/
inductive Error where
  | malformedConfig (message : String)
  | invalidValue (field value reason : String)
  | invalidEnvironment (message : String)
  | unsupportedBackend (backend : String)
  | connectTimeout (endpoint : String) (timeout : Duration)
  | connectFailed (backend endpoint message : String)
  | keyNotFound (key : String)
  | recordNotFound (id : String)
  | storeFailed (backend key message : String)
  | malformedList (message : String)
  | missingType (index : Nat)
  | delegationFailed (command : Command) (plugin message : String)
  | pluginFailed (plugin : String) (code : Option UInt32) (message : String)
  | pluginNotFound (plugin searchPath : String)
  | io (fault : IoFault)
  | unreadable (cause : Json.Error)
  deriving DecidableEq

/-- How far the work had come. -/
inductive Category where
  | config
  | connect
  | notFound
  | store
  | parse
  | delegation
  | io
  deriving DecidableEq, Repr

namespace Error

/-- The wording of an error. -/
def message : Error → String
  | malformedConfig m => "failed to load libkv config: " ++ m
  | invalidValue field value reason =>
    "invalid value for " ++ field ++ " ('" ++ value ++ "'): " ++ reason
  | invalidEnvironment m => "invalid CNI environment: " ++ m
  | unsupportedBackend b => "unsupported store backend: " ++ b
  | connectTimeout endpoint timeout =>
    "connection to " ++ endpoint ++ " timed out after " ++ timeout.text
  | connectFailed backend endpoint m =>
    "cannot connect to " ++ backend ++ " store at " ++ endpoint ++ ": " ++ m
  | keyNotFound key => "no value at key: " ++ key
  | recordNotFound id =>
    "no scratch record for container " ++ id ++ ": no matching setup, or already torn down"
  | storeFailed backend key m => backend ++ " store error at key " ++ key ++ ": " ++ m
  | malformedList m => "could not parse network config list: " ++ m
  | missingType i =>
    "subconfig at index " ++ String.ofList (Json.Number.decimalDigits i) ++
      " has no usable \"type\" field"
  | delegationFailed command plugin m =>
    "delegating " ++ command.word ++ " to plugin " ++ plugin ++ " failed: " ++ m
  | pluginFailed plugin _ m => "plugin " ++ plugin ++ " failed: " ++ m
  | pluginNotFound plugin path => "plugin " ++ plugin ++ " not found in " ++ path
  | io fault => "IO error: " ++ fault.text
  | unreadable cause => "Serialization error: " ++ cause.text

/-- The category of an error. -/
def category : Error → Category
  | malformedConfig _ | invalidValue .. | invalidEnvironment _ => .config
  | unsupportedBackend _ | connectTimeout .. | connectFailed .. => .connect
  | keyNotFound _ | recordNotFound _ => .notFound
  | storeFailed .. => .store
  | malformedList _ | unreadable _ => .parse
  | missingType _ | delegationFailed .. | pluginFailed .. | pluginNotFound .. => .delegation
  | io _ => .io

/-- The code of a plugin that failed without naming one. -/
def unknownPluginCode : UInt32 := 999

/-- The code that is reported to the runtime. -/
def code : Error → UInt32
  | malformedConfig _ | unreadable _ => 6
  | invalidEnvironment _ => 4
  | invalidValue .. | unsupportedBackend _ | malformedList _ | missingType _ => 7
  | connectTimeout .. | connectFailed .. => 11
  | io _ => 5
  | keyNotFound _ => 100
  | recordNotFound _ => 101
  | storeFailed .. => 102
  | delegationFailed .. => 103
  | pluginFailed _ code _ => code.getD unknownPluginCode
  | pluginNotFound .. => 104

/-- Is it the lack of a value or a record? -/
def isNotFound (e : Error) : Bool := e.category = .notFound

end Error

/-- How an operation ends without a result. -/
inductive Failure where
  | error (e : Error)
  | breakdown (message : String)
  deriving DecidableEq

/-- Ends with an error. -/
def failWith {α : Type} (e : Error) : Except Failure α := .error (.error e)

end NetDelegate
