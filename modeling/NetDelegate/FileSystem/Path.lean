/-
  NetDelegate/FileSystem/Path.lean
  ================================
  **From paths to nodes.**  A path is followed name by name from the top of a tree; `..` goes up,
  and links are followed wherever they stand, up to a bound.  `Place` is what is found at a path.
-/
import NetDelegate.Error
import NetDelegate.FileSystem.Node
import NetDelegate.Text.Split

namespace NetDelegate

/-- What is at a path: nothing that can be reached, nothing yet, or a node. -/
inductive Place where
  | blocked (e : Errno)
  | missing
  | present (node : Node)

namespace FileSystem

/-- The separator of the names in a path. -/
def separator : UInt8 := 47

/-- The length that names may have. -/
def maxNameLength : Nat := 255

/-- The number of links that are followed. -/
def maxLinks : Nat := 40

/-- The names in a path; empty ones and `.` do not count. -/
def names (path : Bytes) : List FileName :=
  (splitWhere (· = separator) path).filter fun n => n ≠ [] && n ≠ utf8 "."

/-- Is the path followed from the top wherever it stands? -/
def isAbsolute (path : Bytes) : Bool := path.head? = some separator

/-- The path of a name in a folder. -/
def join (folder : Bytes) (name : Bytes) : Bytes :=
  if isAbsolute name then name
  else if folder = [] then name
  else if folder.getLast? = some separator then folder ++ name
  else folder ++ separator :: name

/-- The node at the end of names that are no links. -/
def nodeAt? : Node → List FileName → Option Node
  | node, [] => some node
  | .folder _ entries, n :: ns => (Entries.find? entries n).bind fun node => nodeAt? node ns
  | _, _ :: _ => none

/-- Where following a path ends: at a node, in front of names that are missing, or nowhere.
    Names that were passed are no links. -/
inductive Reached where
  | found (at_ : List FileName)
  | missing (at_ : List FileName) (rest : List FileName)
  | blocked (e : Errno)
  deriving DecidableEq, Repr

/-- Follows names from a place in the tree, through at most `links` links. -/
def follow (root : Node) (links : Nat) (here : List FileName) (rest : List FileName) : Reached :=
  match rest with
  | [] => .found here
  | n :: rest =>
    match nodeAt? root here with
    | some (.folder _ entries) =>
      if n = utf8 ".." then follow root links here.dropLast rest
      else if maxNameLength < n.length then .blocked .nameTooLong
      else match Entries.find? entries n with
        | none => .missing here (n :: rest)
        | some (.link target) =>
          match links with
          | 0 => .blocked .tooManyLinks
          | links + 1 =>
            follow root links (if isAbsolute target then [] else here) (names target ++ rest)
        | some _ => follow root links (here ++ [n]) rest
    | _ => .blocked .notDirectory
termination_by (links, rest.length)

/-- Follows a path from the top. -/
def reach (root : Node) (path : Bytes) : Reached :=
  if path = [] then .blocked .noEntry else follow root maxLinks [] (names path)

/-- What is at a path. -/
def place (root : Node) (path : Bytes) : Place :=
  match reach root path with
  | .found at_ =>
    match nodeAt? root at_ with
    | some node => .present node
    | none => .missing
  | .missing _ _ => .missing
  | .blocked e => .blocked e

/-- Is there a file at a path? -/
def isFile (root : Node) (path : Bytes) : Bool :=
  match place root path with
  | .present (.file _ _) => true
  | _ => false

/-- Puts a node in the place that names lead to; folders that are missing on the way get the
    given mode. -/
def putAt (mode : Nat) (node : Node) : Node → List FileName → Node
  | _, [] => node
  | .folder m entries, n :: ns =>
    .folder m (Entries.put entries n
      (putAt mode node ((Entries.find? entries n).getD (.folder mode [])) ns))
  | other, _ :: _ => other

/-- Goes on by names that are missing and makes a folder of the given mode for each.  Gives the tree
    and the place that is reached, which is higher up again where the names say so. -/
def makeWay (mode : Nat) : Node → List FileName → List FileName → Node × List FileName
  | root, here, [] => (root, here)
  | root, here, n :: rest =>
    if n = utf8 ".." then makeWay mode root here.dropLast rest
    else
      let there := here ++ [n]
      match nodeAt? root there with
      | some _ => makeWay mode root there rest
      | none => makeWay mode (putAt mode (.folder mode []) root there) there rest

/-- A folder that takes the place of one that was made on the way keeps what was made in it. -/
def overlay : Node → Option Node → Node
  | .folder mode entries, some (.folder _ made) =>
    .folder mode (entries ++ made.filter fun e => (Entries.find? entries e.1).isNone)
  | node, _ => node

/-- Puts a node at a path; nothing changes if the path leads nowhere. -/
def put (mode : Nat) (root : Node) (path : Bytes) (node : Node) : Node :=
  match reach root path with
  | .found at_ => putAt mode node root at_
  | .missing at_ rest =>
    let (root, there) := makeWay mode root at_ rest
    putAt mode (overlay node (nodeAt? root there)) root there
  | .blocked _ => root

/-- Removes what is at a path. -/
def remove (root : Node) (path : Bytes) : Node :=
  match reach root path with
  | .found at_ =>
    match at_.getLast?, nodeAt? root at_.dropLast with
    | some name, some (.folder m entries) =>
      putAt 0 (.folder m (Entries.remove entries name)) root at_.dropLast
    | _, _ => root
  | _ => root

end FileSystem

end NetDelegate
