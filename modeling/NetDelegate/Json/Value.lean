/-
  NetDelegate/Json/Value.lean
  ===========================
  **JSON values.**  An object keeps its members in the order in which their names first came up;
  a name that comes up again replaces the value and keeps the place.
-/
import NetDelegate.Json.Number

namespace NetDelegate

/-- A JSON value. -/
inductive Json where
  | null
  | bool (b : Bool)
  | number (n : Json.Number)
  | string (s : String)
  | array (items : List Json)
  | object (members : List (String × Json))
  deriving Repr, Inhabited

namespace Json

/-- The members of an object, in order. -/
abbrev Members := List (String × Json)

/-- Gives a name a value: in place if it has one already, else at the end. -/
def setMember {α : Type} (name : String) (value : α) : List (String × α) → List (String × α)
  | [] => [(name, value)]
  | (n, v) :: rest => if n = name then (n, value) :: rest else (n, v) :: setMember name value rest

/-- The members that the pairs of a list give, one after the other. -/
def ofPairs {α : Type} (pairs : List (String × α)) : List (String × α) :=
  pairs.foldl (fun members p => setMember p.1 p.2 members) []

/-- The value of a name. -/
def Members.get? (members : Members) (name : String) : Option Json :=
  (members.find? fun p => p.1 = name).map (·.2)

/-- The value of a member, if the value is an object that has it. -/
def member? : Json → String → Option Json
  | object members, name => Members.get? members name
  | _, _ => none

/-- The text of a string value. -/
def text? : Json → Option String
  | string s => some s
  | _ => none

end Json

end NetDelegate
