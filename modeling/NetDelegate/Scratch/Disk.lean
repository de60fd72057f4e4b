/-
  NetDelegate/Scratch/Disk.lean
  =============================
  **Steps on a folder.**  Files are written, renamed, read and deleted by their names.  A step can
  fail because of what is in the folder, or because the disk fails at it, which a `Disk` tells.
  Writing and reading follow links, renaming and deleting do not.
-/
import NetDelegate.FileSystem.Path

namespace NetDelegate.Scratch

/-! ### The disk -/

/-- A fault of the disk.  That there is no entry of a name is none: this is found out by looking. -/
abbrev Fault := { e : Errno // e ≠ .noEntry }

/-- What is at a path that leads out of a folder: what reading there gives, and how writing
    there ends. -/
structure Outside where
  contents : Except Errno Bytes
  written : Except Errno Unit

/-- The path of the device that is always empty. -/
def emptyDevice : Bytes := utf8 "/dev/null"

/-- What is at a path of which nothing is known.  The empty device is on every machine; what is
    written there cannot be brought to a disk. -/
def Outside.ofPath (path : Bytes) : Outside :=
  if path = emptyDevice then ⟨.ok [], .error .invalidArgument⟩
  else ⟨.error .noEntry, .error .noEntry⟩

/-- What is at a path in a tree. -/
def Outside.inTree (root : Node) (path : Bytes) : Outside :=
  match FileSystem.reach root path with
  | .blocked e => ⟨.error e, .error e⟩
  | .missing _ [_] => ⟨.error .noEntry, .ok ()⟩
  | .missing _ _ => .ofPath path
  | .found at_ =>
    match FileSystem.nodeAt? root at_ with
    | some (.file data _) => ⟨.ok data, .ok ()⟩
    | _ => ⟨.error .isDirectory, .error .isDirectory⟩

/-- How the disk serves one operation on the records: the faults that it has at each step, if any,
    and where links lead that do not stay in the folder. -/
structure Disk where
  /-- Looking for the folder, and making it. -/
  making : Option Fault := none
  /-- Opening a file to write it. -/
  opening : Option Fault := none
  /-- Writing a file and bringing it to the disk, after so many bytes. -/
  writing : Option (Nat × Fault) := none
  moving : Option Fault := none
  /-- Bringing the names in the folder to the disk. -/
  syncing : Option Fault := none
  reading : Option Fault := none
  deleting : Option Fault := none
  elsewhere : Bytes → Outside := Outside.ofPath

namespace Disk

/-- What is in a file when writing these bytes has ended. -/
def arrived (disk : Disk) (data : Bytes) : Bytes :=
  match disk.writing with
  | some (n, _) => data.take n
  | none => data

/-- How writing a file ends that could be opened. -/
def written (disk : Disk) : Except Errno Unit :=
  match disk.writing with
  | some (_, fault) => .error fault
  | none => .ok ()

end Disk

/-! ### Links -/

/-- Looks a name up; one that is too long cannot be looked up. -/
def lookUp (es : Entries) (name : FileName) : Except Errno (Option Node) :=
  if FileSystem.maxNameLength < name.length then .error .nameTooLong else .ok (es.find? name)

/-- Where a name leads: to a name of the folder that is no link, or out of the folder. -/
inductive Target where
  | inside (name : FileName)
  | outside (path : Bytes)

/-- Does a link with this path lead to a name of its own folder? -/
def staysInside (path : Bytes) : Bool := FileSystem.names path = [path] && path ≠ utf8 ".."

/-- Follows the links under a name, as many of them as may be followed. -/
def leadsTo (es : Entries) : Nat → FileName → Except Errno Target
  | links, name =>
    match lookUp es name with
    | .error e => .error e
    | .ok (some (.link path)) =>
      match links with
      | 0 => .error .tooManyLinks
      | links + 1 => if staysInside path then leadsTo es links path else .ok (.outside path)
    | .ok _ => .ok (.inside name)

/-! ### Steps -/

/-- The mode of a file that is made for a record. -/
def recordMode : Nat := 0o600

/-- Writes a file; one that is there already keeps its mode.  What has been written before a fault
    stays. -/
def write (disk : Disk) (es : Entries) (name : FileName) (data : Bytes) :
    Except Errno Unit × Entries :=
  match disk.opening with
  | some fault => (.error fault, es)
  | none =>
    match leadsTo es FileSystem.maxLinks name with
    | .error e => (.error e, es)
    | .ok (.outside path) => ((disk.elsewhere path).written.bind fun _ => disk.written, es)
    | .ok (.inside name) =>
      match es.find? name with
      | some (.folder ..) => (.error .isDirectory, es)
      | some (.file _ mode) => (disk.written, es.put name (.file (disk.arrived data) mode))
      | _ => (disk.written, es.put name (.file (disk.arrived data) recordMode))

/-- Renames.  What is there under the new name is replaced if it is of the same kind and no
    folder with something in it. -/
def rename (es : Entries) (old new : FileName) : Except Errno Entries := do
  match ← lookUp es old with
  | none => .error .noEntry
  | some node =>
    let moved := (es.remove old).put new node
    match node, ← lookUp es new with
    | _, none => .ok moved
    | .folder .., some (.folder _ []) => .ok moved
    | .folder .., some (.folder _ (_ :: _)) => .error .directoryNotEmpty
    | .folder .., some _ => .error .notDirectory
    | _, some (.folder ..) => .error .isDirectory
    | _, some _ => .ok moved

/-- Renames, if the disk has no fault. -/
def move (disk : Disk) (es : Entries) (old new : FileName) : Except Errno Entries :=
  match disk.moving with
  | some fault => .error fault
  | none => rename es old new

/-- Reads a file. -/
def read (disk : Disk) (es : Entries) (name : FileName) : Except Errno Bytes :=
  match disk.reading with
  | some fault => .error fault
  | none =>
    match leadsTo es FileSystem.maxLinks name with
    | .error e => .error e
    | .ok (.outside path) => (disk.elsewhere path).contents
    | .ok (.inside name) =>
      match es.find? name with
      | some (.file data _) => .ok data
      | some (.folder ..) => .error .isDirectory
      | _ => .error .noEntry

/-- Deletes a file or a link; a folder stays. -/
def delete (disk : Disk) (es : Entries) (name : FileName) : Entries :=
  match disk.deleting, es.find? name with
  | some _, _ => es
  | none, some (.folder ..) => es
  | none, _ => es.remove name

end NetDelegate.Scratch
