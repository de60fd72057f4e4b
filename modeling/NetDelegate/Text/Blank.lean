/-
  NetDelegate/Text/Blank.lean
  ===========================
  **Blanks at the ends of a text.**  A blank is a character with the Unicode property
  `White_Space`; `trim` drops blanks from both ends and `isBlankText` says that nothing else is
  there.
-/

namespace NetDelegate

/-- The characters with the property `White_Space`. -/
def isBlank (c : Char) : Bool :=
  let n := c.toNat
  (9 ≤ n && n ≤ 13) || n = 32 || n = 0x85 || n = 0xA0 || n = 0x1680 ||
    (0x2000 ≤ n && n ≤ 0x200A) || n = 0x2028 || n = 0x2029 || n = 0x202F || n = 0x205F ||
    n = 0x3000

/-- Drops the blanks at the start of a text. -/
def trimStart (cs : List Char) : List Char := cs.dropWhile isBlank

/-- Drops the blanks at the end of a text. -/
def trimEnd (cs : List Char) : List Char := (cs.reverse.dropWhile isBlank).reverse

/-- Drops the blanks at both ends of a text. -/
def trim (s : String) : String := String.ofList (trimEnd (trimStart s.toList))

/-- Holds of a text of blanks only, the empty text included. -/
def isBlankText (s : String) : Bool := s.toList.all isBlank

end NetDelegate
