/-
  NetDelegate/Url/Path.lean
  =========================
  **Paths of addresses, segment by segment.**  The segment `.` names the place itself and `..`
  the one above; neither is kept.  `push` puts a segment at the end of a path, and what remains
  of a dot segment at the end is an empty segment.
-/
import NetDelegate.Url.Basic

namespace NetDelegate.Path

/-- The spellings of a dot in a written segment: itself, and its escape. -/
def dotForms : List (List Char) := [['.'], ['%', '2', 'e'], ['%', '2', 'E']]

/-- Does the segment name the place itself? -/
def isSingleDot (segment : List Char) : Bool := dotForms.contains segment

/-- Does the segment name the place above? -/
def isDoubleDot (segment : List Char) : Bool :=
  dotForms.any fun a => dotForms.any fun b => segment = a ++ b

/-- A letter with a colon or bar behind it, which names a drive: `..` does not remove it. -/
def isDrive (segment : String) : Bool :=
  match segment.toList with
  | [c, d] => c.isAlpha && (d = ':' || d = '|')
  | _ => false

/-- The path above. -/
def parent (path : List String) : List String :=
  match path.getLast? with
  | none => []
  | some last => if isDrive last then path else path.dropLast

/-- Goes one segment on from the segments before; `isLast` says that none follows. -/
def step (keeps : Char → Bool) (before : List String) (segment : List Char) (isLast : Bool) :
    List String :=
  let written := Percent.encode keeps segment
  let ending := if isLast then [""] else []
  if isDoubleDot written then parent before ++ ending
  else if isSingleDot written then before ++ ending
  else before ++ [String.ofList written]

/-- Follows raw segments from the top. -/
def follow (before : List String) : List (List Char) → List String
  | [] => before
  | [last] => step Percent.pathKeeps before last true
  | s :: rest => follow (step Percent.pathKeeps before s false) rest

/-! ### Adding segments -/

/-- Tabs and line ends, which an address never has. -/
def isDropped (c : Char) : Bool := c = '\t' || c = '\n' || c = '\r'

/-- Drops one empty segment from the end, unless it is all there is. -/
def withoutTrailing (path : List String) : List String :=
  if path.length ≤ 1 then path
  else if path.getLast? = some "" then path.dropLast else path

/-- Puts one segment at the end of a path.  Dot segments are passed over; those that come about
    only when tabs and line ends are dropped are followed.  The empty path takes the segment in
    the place of its only one. -/
def push (path : List String) (segment : List Char) : List String :=
  if segment = ['.'] ∨ segment = ['.', '.'] then path
  else
    step Percent.segmentKeeps (if path = [""] then [] else path)
      (segment.filter fun c => !isDropped c) true

/-- Puts segments at the end of a path. -/
def extend (path : List String) (segments : List (List Char)) : List String :=
  segments.foldl push path

end NetDelegate.Path
