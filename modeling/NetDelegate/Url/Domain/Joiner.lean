/-
  NetDelegate/Url/Domain/Joiner.lean
  ==================================
  **Joiners in names.**  Two characters that cannot be seen say whether the letters on both sides
  are written joined.  A name may have them only where they make a difference: behind a mark that
  takes the vowel from a letter, and the one that separates also between letters that would join.
-/
import NetDelegate.Text.Normal
import NetDelegate.Url.Domain.Direction

namespace NetDelegate.Domain

/-! ### Tables -/

/-- Characters that join to the next one. -/
def joinsNextTable : CodeSet := CodeSet.ofHex
  "620 626 628 62A-62E 633-63F 641-647 649-64A 66E-66F 679-687 69A-6BF 6C1-6C2 6CC 6CE 6D0-6D1
   6FA-6FC 6FF 712-714 71A-71D 71F-727 729 72B 72D-72E 74E-758 75C-76A 76D-770 772 775-777
   77A-77F 7CA-7EA 841-845 848 84A-853 855 860 862-865 868 886 889-88D 8A0-8A9 8AF-8B0 8B3-8B8
   8BA-8C8 1807 1820-1878 1887-18A8 18AA A840-A872 10AC0-10AC4 10ACD 10AD3-10ADC 10ADE-10AE0
   10AEB-10AEE 10B80 10B82 10B86-10B88 10B8A-10B8B 10B8D 10B90 10BAD-10BAE 10D00-10D21 10D23
   10F30-10F32 10F34-10F44 10F51-10F53 10F70-10F73 10F76-10F81 10FB0 10FB2-10FB3 10FB8
   10FBB-10FBC 10FBE-10FBF 10FC1 10FC4 10FCA-10FCB 1E922-1E943"

/-- Characters that join to the one before. -/
def joinsPreviousTable : CodeSet := CodeSet.ofHex
  "620 622-63F 641-64A 66E-66F 671-673 679-6D3 6D5 6EE-6EF 6FA-6FC 6FF 710 712-72F 74D-77F
   7CA-7EA 840-858 860 862-865 867-882 886 889-88E 8A0-8AC 8AE-8C8 1807 1820-1878 1887-18A8 18AA
   A840-A871 10AC0-10AC5 10AC7 10AC9-10ACA 10ACE-10AD6 10AD8-10AE1 10AE4 10AEB-10AEF 10B80-10B91
   10BA9-10BAE 10D01-10D23 10F30-10F44 10F51-10F54 10F70-10F81 10FB0 10FB2-10FB6 10FB8-10FBF
   10FC1-10FC4 10FC9-10FCA 1E922-1E943"

/-- Characters beside the nonspacing marks that do not come between joined ones. -/
def transparentTable : CodeSet := CodeSet.ofHex
  "CBF CC6 11A07-11A08 11C3F 1E94B"

/-- Characters that do not come between joined ones. -/
def isTransparent (c : Char) : Bool := nonspacingTable.contains c || transparentTable.contains c

/-! ### The rule -/

/-- The joiner that separates. -/
def nonJoiner : Char := '\u200c'

/-- The joiner that joins. -/
def joiner : Char := '\u200d'

/-- The class of marks that take the vowel from a letter. -/
def viramaClass : Nat := 9

/-- Is a character in place behind the text `before`, last character first, and in front of the
    text `after`? -/
def isInPlace (before : List Char) (c : Char) (after : List Char) : Bool :=
  let followsVirama := match before with
    | m :: _ => combiningClass m = viramaClass
    | [] => false
  let joinsAcross :=
    ((before.dropWhile isTransparent).head?.any joinsNextTable.contains) &&
      ((after.dropWhile isTransparent).head?.any joinsPreviousTable.contains)
  if c = joiner then followsVirama
  else if c = nonJoiner then followsVirama || joinsAcross
  else true

/-- Are all characters in place?  `before` is the text already passed, last character first. -/
def joinersFrom (before : List Char) : List Char → Bool
  | [] => true
  | c :: cs => isInPlace before c cs && joinersFrom (c :: before) cs

/-- Are the joiners of a part of a name in place? -/
def joinersInPlace (part : List Char) : Bool := joinersFrom [] part

end NetDelegate.Domain
