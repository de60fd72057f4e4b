/-
  NetDelegate/Scratch.lean
  ========================
  **The record that is kept between setting up and tearing down.**  Every container has a file
  of its own in one folder.  A record is written to a working file first and then renamed, so
  that it is there as a whole or not at all; it is taken by renaming it, so that it is taken only
  once.  What was done before a step that fails is not undone.

  The operations work on the place of the folder and give it back as they leave it.
-/
import NetDelegate.ContainerId
import NetDelegate.Scratch.Disk

namespace NetDelegate.Scratch

/-! ### Names -/

/-- The file of a record. -/
def recordName (id : String) : FileName := utf8 id

/-- The file in which a record is written. -/
def draftName (id : String) : FileName := utf8 ("." ++ id ++ ".tmp")

/-- The file to which a record is moved when the process `pid` takes it. -/
def claimName (id : String) (pid : Nat) : FileName :=
  utf8 ("." ++ id ++ ".taken-" ++ String.ofList (Json.Number.decimalDigits pid))

/-- The path of a record in the folder. -/
def recordPath (folder : Bytes) (id : String) : Bytes := FileSystem.join folder (utf8 id)

/-- The mode of a folder that is made for records. -/
def folderMode : Nat := 0o700

/-! ### Records -/

/-- An error of the operating system. -/
def systemError (e : Errno) : Error := .io (.system e)

/-- Mode and nodes of the folder, which is made if there is nothing. -/
def openFolder : Place → Except Errno (Nat × Entries)
  | .blocked e => .error e
  | .missing => .ok (folderMode, [])
  | .present (.folder mode es) => .ok (mode, es)
  | .present _ => .error .exists

/-- Opens the folder, if the disk has no fault. -/
def makeFolder (disk : Disk) (place : Place) : Except Errno (Nat × Entries) :=
  match disk.making with
  | some fault => .error fault
  | none => openFolder place

/-- Writes the draft of a record and lets it take the place of the record. -/
def save (place : Place) (id : String) (data : Bytes) (disk : Disk := {}) :
    Except Failure Unit × Place :=
  match ContainerId.check id with
  | .error e => (.error e, place)
  | .ok () =>
    match makeFolder disk place with
    | .error e => (failWith (systemError e), place)
    | .ok (mode, es) =>
      let folder (es : Entries) : Place := .present (.folder mode es)
      match write disk es (draftName id) data with
      | (.error e, es) => (failWith (systemError e), folder es)
      | (.ok (), es) =>
        match move disk es (draftName id) (recordName id) with
        | .error e => (failWith (systemError e), folder es)
        | .ok es => (.ok (), folder es)

/-- Saves a record and brings its name to the disk. -/
def put (place : Place) (id : String) (data : Bytes) (disk : Disk := {}) :
    Except Failure Unit × Place :=
  match save place id data disk with
  | (.error e, place) => (.error e, place)
  | (.ok (), place) =>
    match disk.syncing with
    | some fault => (failWith (systemError fault), place)
    | none => (.ok (), place)

/-- Why a record could not be claimed. -/
def claimError (id : String) (e : Errno) : Error :=
  if e = .noEntry then .recordNotFound id else systemError e

/-- Moves a record away, in the name of the process `pid`.  Gives the folder without it. -/
def claim (pid : Nat) (place : Place) (id : String) (disk : Disk := {}) :
    Except Failure (Nat × Entries) :=
  match ContainerId.check id with
  | .error e => .error e
  | .ok () =>
    match place with
    | .blocked e => failWith (claimError id e)
    | .missing => failWith (claimError id .noEntry)
    | .present (.folder mode es) =>
      match move disk es (recordName id) (claimName id pid) with
      | .error e => failWith (claimError id e)
      | .ok es => .ok (mode, es)
    | .present _ => failWith (claimError id .notDirectory)

/-- Takes a record away, in the name of the process `pid`.  What was claimed is deleted even if it
    cannot be read. -/
def take (pid : Nat) (place : Place) (id : String) (disk : Disk := {}) :
    Except Failure Bytes × Place :=
  match claim pid place id disk with
  | .error e => (.error e, place)
  | .ok (mode, es) =>
    let left : Place := .present (.folder mode (delete disk es (claimName id pid)))
    match read disk es (claimName id pid) with
    | .ok data => (.ok data, left)
    | .error e => (failWith (systemError e), left)

end NetDelegate.Scratch
