/-
  NetDelegate/Text/CodeSet.lean
  =============================
  **Sets of characters, given by ranges of their numbers.**  The property tables of the Unicode
  standard are long lists of ranges, so they are written as text: hexadecimal numbers and ranges
  `first-last`, in ascending order, separated by blanks.
-/
import NetDelegate.Text.Split

namespace NetDelegate

/-- The value of a hexadecimal digit. -/
def hexValue? (c : Char) : Option Nat :=
  if '0' ≤ c ∧ c ≤ '9' then some (c.toNat - 48)
  else if 'a' ≤ c ∧ c ≤ 'f' then some (c.toNat - 87)
  else if 'A' ≤ c ∧ c ≤ 'F' then some (c.toNat - 55)
  else none

/-- The number that hexadecimal digits spell; other characters are passed over. -/
def hexNumber (cs : List Char) : Nat :=
  cs.foldl (fun n c => match hexValue? c with | some d => n * 16 + d | none => n) 0

/-- The words of a table: its pieces between blanks and line ends. -/
def tableWords (s : String) : List (List Char) :=
  (splitWhere (fun c => c = ' ' || c = '\n') s.toList).filter (· ≠ [])

/-- A set of characters as ranges of numbers, ends included. -/
structure CodeSet where
  ranges : List (Nat × Nat)

namespace CodeSet

/-- Reads one range. -/
def rangeOfHex (word : List Char) : Nat × Nat :=
  match splitWhere (· = '-') word with
  | [a, b] => (hexNumber a, hexNumber b)
  | _ => (hexNumber word, hexNumber word)

/-- Reads a table of ranges. -/
def ofHex (s : String) : CodeSet := ⟨(tableWords s).map rangeOfHex⟩

/-- Is the character in one of the ranges? -/
def contains (t : CodeSet) (c : Char) : Bool :=
  t.ranges.any fun r => r.1 ≤ c.toNat && c.toNat ≤ r.2

end CodeSet

end NetDelegate
