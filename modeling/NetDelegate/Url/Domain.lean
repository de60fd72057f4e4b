/-
  NetDelegate/Url/Domain.lean
  ===========================
  **Domain names in ASCII.**  Names may have letters of all scripts, but are asked for in ASCII.
  The parts of a name, between its dots, are written in ASCII one by one; a part that is
  written so already is accepted if it is the written form of a part that may stand in a name.
-/
import NetDelegate.Text.Normal
import NetDelegate.Text.Percent
import NetDelegate.Url.Domain.Joiner
import NetDelegate.Url.Domain.Mapping
import NetDelegate.Url.Domain.MarkTable
import NetDelegate.Url.Domain.Punycode

namespace NetDelegate.Domain

/-- Is it an ASCII character? -/
def isAscii (c : Char) : Bool := c.toNat < 0x80

/-- ASCII characters that no name may have. -/
def isForbidden (c : Char) : Bool :=
  c.toNat ≤ 0x20 || c.toNat = 0x7F || "%#/:<>?@[\\]^|".toList.contains c

/-! ### Parts -/

/-- A part of a name, as it is written in ASCII and as it is read. -/
structure Part where
  written : List Char
  text : List Char
  deriving DecidableEq, Repr

/-- The start of a part that is written in ASCII but has other characters. -/
def mark : List Char := "xn--".toList

/-- The longest text that is written in ASCII. -/
def maxText : Nat := 1000

/-- The longest text that is read behind the mark. -/
def maxCode : Nat := 2000

/-- The usual spelling of a name. -/
def spelled? (name : List Char) : Option (List Char) :=
  (name.mapM replacement?).map fun texts => normalForm texts.flatten

/-- Reads what stands behind the mark. -/
def readCode? (code : List Char) : Option (List Char) :=
  if code = [] ∨ code.getLast? = some '-' ∨ maxCode < code.length then none
  else match Punycode.decode? code with
    | some text => if spelled? text = some text then some text else none
    | none => none

/-- Reads a part. -/
def part? (cs : List Char) : Option Part :=
  if cs.take mark.length = mark then (readCode? (cs.drop mark.length)).map fun text => ⟨cs, text⟩
  else if cs.all isAscii then some ⟨cs, cs⟩
  else if maxText < cs.length then none
  else some ⟨mark ++ Punycode.encode cs, cs⟩

/-- Does a text begin with a mark, which then would be written on the dot? -/
def beginsWithMark : List Char → Bool
  | [] => false
  | c :: _ => markTable.contains c

/-- May a part stand in a name? -/
def isPart (p : Part) : Bool :=
  !p.text.any isForbidden && !p.text.contains '.' && !beginsWithMark p.text &&
    joinersInPlace p.text

/-! ### Names -/

/-- Joins the parts of a name. -/
def joinParts (parts : List Part) : List Char := ['.'].intercalate (parts.map Part.written)

/-- The ASCII form of a name with parts of any kind. -/
def convert? (name : List Char) : Option (List Char) :=
  match (spelled? name).bind fun cs => (splitWhere (· = '.') cs).mapM part? with
  | none => none
  | some parts =>
    let mixed := parts.any fun p => hasRightToLeft p.text
    if parts.all isPart ∧ (mixed → parts.all fun p => keepsDirection p.text) then
      some (joinParts parts)
    else none

/-- Is the name in ASCII, with nothing behind a mark? -/
def isPlain (name : List Char) : Bool :=
  name.all isAscii && (splitWhere (· = '.') name).all fun cs => cs.take mark.length ≠ mark

/-- The ASCII form of a name.  A name that is plain, apart from capital letters, only has these
    replaced. -/
def toAscii? (name : List Char) : Option (List Char) :=
  let small := name.map Char.toLower
  if isPlain small then if small.any isForbidden then none else some small
  else convert? name

end NetDelegate.Domain
