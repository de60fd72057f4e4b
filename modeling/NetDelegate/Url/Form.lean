/-
  NetDelegate/Url/Form.lean
  =========================
  **Queries made of pairs.**  A query is a list of pairs, written `name=value` with `&` between
  them.  Letters, digits and `*-._` stand for themselves, a space is written `+`, and all else is
  percent-encoded.
-/
import NetDelegate.Url.Basic

namespace NetDelegate.Form

/-- Characters that stand for themselves. -/
def keeps (c : Char) : Bool := c.isAlphanum || "*-._".toList.contains c

/-- One character of a name or a value. -/
def encodeChar (c : Char) : List Char := if c = ' ' then ['+'] else Percent.encodeChar keeps c

/-- A name or a value. -/
def encode (s : String) : List Char := s.toList.flatMap encodeChar

/-- Puts a written pair at the end of a query. -/
def append (query : Option String) (pair : List Char) : String :=
  match query with
  | none | some "" => String.ofList pair
  | some q => String.ofList (q.toList ++ '&' :: pair)

/-- Adds a name without a value. -/
def addName (query : Option String) (name : String) : String := append query (encode name)

/-- Adds a pair. -/
def addPair (query : Option String) (name value : String) : String :=
  append query (encode name ++ '=' :: encode value)

/-- The text that a written name or value stands for; bytes that are no text are replaced. -/
def decode (cs : List Char) : String :=
  Bytes.textLossy (Percent.decode (Utf8.encode (cs.map fun c => if c = '+' then ' ' else c)))

/-- The pairs of a query.  Empty pieces do not count, and what has no `=` is a name with an empty
    value. -/
def pairs (query : String) : List (String × String) :=
  ((splitWhere (· = '&') query.toList).filter (· ≠ [])).map fun piece =>
    (decode (piece.takeWhile (· ≠ '=')), decode ((piece.dropWhile (· ≠ '=')).drop 1))

end NetDelegate.Form
