/-
  NetDelegate/Environment.lean
  ============================
  **Environment variables, and references to them in texts.**  A reference is written
  `${NAME}` or `${NAME:-DEFAULT}`.  `expand` replaces every reference from left to right by the
  variable's value or the default; what is put in is not expanded again.
-/
import NetDelegate.Text.Utf8

namespace NetDelegate

/-- The environment: the value of each variable that is set. -/
abbrev Environment := String → Option Bytes

namespace Environment

/-- The value of a variable, if it is set and is text. -/
def text? (env : Environment) (name : String) : Option String := (env name).bind Bytes.text?

/-! ### References -/

/-- A reference to a variable, with the text that stands in for it if it is not set. -/
structure Reference where
  name : String
  fallback : Option String
  deriving DecidableEq, Repr

/-- First characters of names. -/
def isNameStart (c : Char) : Bool := c.isAlpha || c = '_'

/-- Later characters of names. -/
def isNamePart (c : Char) : Bool := c.isAlphanum || c = '_'

/-- Reads what follows a name: the closing brace, with a default in front of it or not. -/
def closeReference? (name : List Char) : List Char → Option (Reference × List Char)
  | '\x7d' :: rest => some (⟨String.ofList name, none⟩, rest)
  | ':' :: '-' :: rest =>
    match rest.dropWhile (· ≠ '\x7d') with
    | [] => none
    | _ :: after =>
      some (⟨String.ofList name, some (String.ofList (rest.takeWhile (· ≠ '\x7d')))⟩, after)
  | _ => none

/-- The reference at the start of a text, and what follows it. -/
def reference? : List Char → Option (Reference × List Char)
  | '$' :: '\x7b' :: c :: rest =>
    if isNameStart c then
      closeReference? (c :: rest.takeWhile isNamePart) (rest.dropWhile isNamePart)
    else none
  | _ => none

theorem length_dropWhile_le {α : Type} (p : α → Bool) (xs : List α) :
    (xs.dropWhile p).length ≤ xs.length := by
  induction xs with
  | nil => simp
  | cons x xs ih =>
    rw [List.dropWhile_cons]
    split
    · simp only [List.length_cons]; omega
    · simp

theorem closeReference?_length {name cs rest : List Char} {r : Reference}
    (h : closeReference? name cs = some (r, rest)) : rest.length < cs.length := by
  unfold closeReference? at h
  split at h
  · simp only [Option.some.injEq, Prod.mk.injEq] at h
    simp [← h.2]
  · next tail =>
    split at h
    · simp at h
    · next x after hd =>
      simp only [Option.some.injEq, Prod.mk.injEq] at h
      have hl := length_dropWhile_le (· ≠ '\x7d') tail
      rw [hd] at hl
      simp only [List.length_cons] at hl ⊢
      rw [← h.2]
      omega
  · simp at h

/-- A reference takes text. -/
theorem reference?_length {cs rest : List Char} {r : Reference}
    (h : reference? cs = some (r, rest)) : rest.length < cs.length := by
  unfold reference? at h
  split at h
  · next c tail =>
    split at h
    · have h₁ := closeReference?_length h
      have h₂ := length_dropWhile_le isNamePart tail
      simp only [List.length_cons]
      omega
    · simp at h
  · simp at h

/-! ### Expansion -/

/-- A piece of a text: a character of its own, or a reference. -/
inductive Piece where
  | char (c : Char)
  | reference (r : Reference)
  deriving DecidableEq, Repr

/-- Cuts a text into characters and references, from left to right. -/
def pieces (cs : List Char) : List Piece :=
  match cs with
  | [] => []
  | c :: cs =>
    match _h : reference? (c :: cs) with
    | some (r, rest) => .reference r :: pieces rest
    | none => .char c :: pieces cs
termination_by cs.length
decreasing_by
  · exact reference?_length _h
  · simp

/-- The text of a piece; `none` if it refers to a variable that is not set and has no default. -/
def Piece.text? (env : Environment) : Piece → Option (List Char)
  | char c => some [c]
  | reference r =>
    match env.text? r.name with
    | some value => some value.toList
    | none => r.fallback.map String.toList

/-- The name that a piece refers to in vain. -/
def Piece.missing? (env : Environment) : Piece → Option String
  | char _ => none
  | reference r => if (Piece.text? env (.reference r)).isNone then some r.name else none

/-- The names to which a text refers. -/
def names (s : String) : List String :=
  (pieces s.toList).filterMap fun
    | .char _ => none
    | .reference r => some r.name

/-- A text with its references replaced, or the name of the first variable that lacks. -/
def expand (env : Environment) (s : String) : Except String String :=
  let ps := pieces s.toList
  match ps.findSome? (Piece.missing? env) with
  | some name => .error name
  | none => .ok (String.ofList (ps.flatMap fun p => (p.text? env).getD []))

end Environment

end NetDelegate
