/-
  NetDelegate/Text/CodeMap.lean
  =============================
  **Maps from characters to texts, given by rules for their numbers.**  Like the sets of
  `CodeSet`, the maps of the Unicode standard are written as text with hexadecimal numbers.  A
  word is a rule: `first-last>image` maps a range of numbers to another one, number by number,
  `first=last>image` does so for every second number, and with `~` in place of `>` all of them
  have the same image.  An image of more than one character is written with `+` between them.
-/
import NetDelegate.Text.CodeSet

namespace NetDelegate

/-- A rule for every `stride`-th number from `first` to `last`. -/
structure CodeRule where
  first : Nat
  last : Nat
  stride : Nat
  /-- Do all of them have the same image? -/
  constant : Bool
  /-- The image of the first one. -/
  image : List Nat

namespace CodeRule

/-- The signs between a rule's numbers and their image. -/
def isArrow (c : Char) : Bool := c = '>' || c = '~'

/-- Reads one rule. -/
def ofWord (word : List Char) : CodeRule :=
  let source := word.takeWhile (!isArrow ·)
  let image := (splitWhere (· = '+') (word.drop (source.length + 1))).map hexNumber
  let constant := word.contains '~'
  match splitWhere (fun c => c = '-' || c = '=') source with
  | [a, b] => ⟨hexNumber a, hexNumber b, if source.contains '=' then 2 else 1, constant, image⟩
  | _ => ⟨hexNumber source, hexNumber source, 1, constant, image⟩

/-- The image of a number to which the rule applies. -/
def image? (r : CodeRule) (n : Nat) : Option (List Nat) :=
  if r.first ≤ n ∧ n ≤ r.last ∧ (n - r.first) % r.stride = 0 then
    some (if r.constant then r.image else r.image.map (· + (n - r.first)))
  else none

end CodeRule

/-- A map from numbers to lists of numbers; of several rules for a number the first counts. -/
structure CodeMap where
  rules : List CodeRule

namespace CodeMap

/-- Reads a table of rules. -/
def ofHex (s : String) : CodeMap := ⟨(tableWords s).map CodeRule.ofWord⟩

/-- The image of a character, if it has one. -/
def image? (m : CodeMap) (c : Char) : Option (List Char) :=
  (m.rules.findSome? (·.image? c.toNat)).map fun image => image.map Char.ofNat

/-- The number to which a character is mapped, zero if there is none. -/
def number (m : CodeMap) (c : Char) : Nat :=
  match m.rules.findSome? (·.image? c.toNat) with
  | some (n :: _) => n
  | _ => 0

/-- The character whose image is the text. -/
def source? (m : CodeMap) (text : List Char) : Option Char :=
  (m.rules.find? fun r => r.image = text.map Char.toNat).map fun r => Char.ofNat r.first

end CodeMap

end NetDelegate
