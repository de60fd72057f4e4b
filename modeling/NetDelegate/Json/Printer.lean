/-
  NetDelegate/Json/Printer.lean
  =============================
  **Compact JSON text.**  No blanks, members in their order.  In a string the quote, the
  backslash and control characters are escaped, the latter by a short escape if there is one;
  all other characters stand for themselves.
-/
import NetDelegate.Json.Value
import NetDelegate.Text.Utf8

namespace NetDelegate.Json

/-- The digit of a number below sixteen, small letters. -/
def hexDigit (n : Nat) : Char := Nat.digitChar n

/-- One character inside a string. -/
def escape (c : Char) : List Char :=
  if c = '"' then ['\\', '"']
  else if c = '\\' then ['\\', '\\']
  else if c.toNat = 8 then ['\\', 'b']
  else if c.toNat = 9 then ['\\', 't']
  else if c.toNat = 10 then ['\\', 'n']
  else if c.toNat = 12 then ['\\', 'f']
  else if c.toNat = 13 then ['\\', 'r']
  else if c.toNat < 0x20 then
    ['\\', 'u', '0', '0', hexDigit (c.toNat / 16), hexDigit (c.toNat % 16)]
  else [c]

/-- A string with its quotes. -/
def quoted (s : String) : List Char := '"' :: (s.toList.flatMap escape ++ ['"'])

/-- Texts with a comma between each two of them. -/
def commaSeparated : List (List Char) → List Char
  | [] => []
  | [t] => t
  | t :: ts => t ++ ',' :: commaSeparated ts

mutual

/-- The compact text of a value. -/
def print : Json → List Char
  | null => ['n', 'u', 'l', 'l']
  | bool true => ['t', 'r', 'u', 'e']
  | bool false => ['f', 'a', 'l', 's', 'e']
  | number n => n.text
  | string s => quoted s
  | array items => '[' :: (commaSeparated (printItems items) ++ [']'])
  | object members => '\x7b' :: (commaSeparated (printMembers members) ++ ['\x7d'])

/-- The texts of the items of an array. -/
def printItems : List Json → List (List Char)
  | [] => []
  | v :: vs => print v :: printItems vs

/-- The texts of the members of an object. -/
def printMembers : List (String × Json) → List (List Char)
  | [] => []
  | (name, v) :: ms => (quoted name ++ ':' :: print v) :: printMembers ms

end

/-- The compact text of a value, as bytes. -/
def bytes (v : Json) : Bytes := Utf8.encode v.print

end NetDelegate.Json
