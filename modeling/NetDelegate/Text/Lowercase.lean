/-
  NetDelegate/Text/Lowercase.lean
  ===============================
  **Small letters.**  `lowercase` maps each character to its small form by the full rules of the
  Unicode standard: `İ` becomes two characters, and a capital sigma at the end of a word becomes
  `ς` and not `σ`.  A sigma ends a word if a cased letter stands before it and none after it,
  characters that case ignores not counted.
-/
import NetDelegate.Text.CaseTable

namespace NetDelegate

/-- The small form of one character, without regard to its neighbours. -/
def lowerChar (c : Char) : List Char :=
  if c.toNat < 0x80 then [c.toLower]
  else if c.toNat = 0x130 then ['i', '\u0307']
  else (smallLetters.image? c).getD [c]

/-- Is the first character that case does not ignore a cased letter? -/
def meetsCased (cs : List Char) : Bool :=
  match cs.dropWhile caseIgnorableTable.contains with
  | [] => false
  | c :: _ => casedTable.contains c

/-- The small form of a text; `before` is the text already passed, last character first. -/
def lowerFrom (before : List Char) : List Char → List Char
  | [] => []
  | c :: cs =>
    let small :=
      if c.toNat = 0x3A3 then
        if meetsCased before && !meetsCased cs then ['ς'] else ['σ']
      else lowerChar c
    small ++ lowerFrom (c :: before) cs

/-- The small form of a text. -/
def lowercase (s : String) : String := String.ofList (lowerFrom [] s.toList)

end NetDelegate
