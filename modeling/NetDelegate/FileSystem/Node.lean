/-
  NetDelegate/FileSystem/Node.lean
  ================================
  **Files, folders and links.**  A folder is a list of named nodes, in no particular order, whose
  names are distinct.

  `find?_put` and `find?_remove` say what is under each name after a folder has been changed.
-/
import NetDelegate.Text.Utf8

namespace NetDelegate

/-- A name in a folder. -/
abbrev FileName := Bytes

/-- What a name stands for: a file with its contents and mode, a folder with its mode and the
    nodes in it, or a link to a path. -/
inductive Node where
  | file (data : Bytes) (mode : Nat)
  | folder (mode : Nat) (entries : List (FileName × Node))
  | link (target : Bytes)

/-- The nodes of a folder. -/
abbrev Entries := List (FileName × Node)

namespace Entries

/-- The node of a name. -/
def find? : Entries → FileName → Option Node
  | [], _ => none
  | e :: es, name => if e.1 = name then some e.2 else find? es name

/-- Lets a name stand for a node, in place of what it stood for. -/
def put : Entries → FileName → Node → Entries
  | [], name, node => [(name, node)]
  | e :: es, name, node => if e.1 = name then (name, node) :: es else e :: put es name node

/-- Removes a name. -/
def remove (es : Entries) (name : FileName) : Entries := es.filter fun e => e.1 ≠ name

theorem find?_put (es : Entries) (name other : FileName) (node : Node) :
    (es.put name node).find? other = if name = other then some node else es.find? other := by
  induction es with
  | nil => simp [put, find?]
  | cons e es ih =>
    simp only [put]
    split
    · next h =>
      simp only [find?, h]
      split <;> rfl
    · next h =>
      simp only [find?, ih]
      split
      · next h' =>
        have : ¬ name = other := fun hn => h (h'.trans hn.symm)
        simp [this]
      · rfl

theorem find?_remove (es : Entries) (name other : FileName) :
    (es.remove name).find? other = if name = other then none else es.find? other := by
  induction es with
  | nil => simp [remove, find?]
  | cons e es ih =>
    simp only [remove] at ih ⊢
    by_cases h : e.1 = name
    · simp only [List.filter_cons, h, ne_eq, not_true_eq_false, decide_false, Bool.false_eq_true,
        if_false, ih, find?]
      split <;> rfl
    · simp only [List.filter_cons, ne_eq, h, not_false_eq_true, decide_true, if_true, find?, ih]
      split
      · next h' =>
        have : ¬ name = other := fun hn => h (h'.trans hn.symm)
        simp [this]
      · rfl

end Entries

end NetDelegate
