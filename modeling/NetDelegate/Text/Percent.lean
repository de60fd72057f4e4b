/-
  NetDelegate/Text/Percent.lean
  =============================
  **Percent encoding.**  A class of ASCII characters stands for itself; every other character is
  written byte by byte as `%` and two hexadecimal digits, capital letters.  Which class is kept
  depends on the part of an address.
-/
import NetDelegate.Text.CodeSet
import NetDelegate.Text.Utf8

namespace NetDelegate.Percent

/-- The capital hexadecimal digit of a number below sixteen. -/
def hexDigit (n : Nat) : Char := (Nat.digitChar n).toUpper

/-- One byte as an escape. -/
def escape (b : UInt8) : List Char := ['%', hexDigit (b.toNat / 16), hexDigit (b.toNat % 16)]

/-- One character: itself if it is kept, else its bytes as escapes. -/
def encodeChar (keeps : Char → Bool) (c : Char) : List Char :=
  if keeps c then [c] else (Utf8.encodeChar c).flatMap escape

/-- A text with the characters escaped that are not kept. -/
def encode (keeps : Char → Bool) (cs : List Char) : List Char := cs.flatMap (encodeChar keeps)

/-- The value of a byte that is a hexadecimal digit. -/
def digit? (b : UInt8) : Option Nat := hexValue? (Char.ofNat b.toNat)

/-- Replaces every escape by its byte; a `%` without two digits stands for itself. -/
def decode : Bytes → Bytes
  | [] => []
  | a :: rest =>
    if a.toNat = 0x25 then
      match rest with
      | [] => [a]
      | [b] => [a, b]
      | b :: c :: more =>
        match digit? b, digit? c with
        | some h, some l => UInt8.ofNat (h * 16 + l) :: decode more
        | _, _ => a :: decode (b :: c :: more)
    else a :: decode rest

/-! ### What each part of an address keeps -/

/-- ASCII characters that print, the space excluded. -/
def isGraphic (c : Char) : Bool := 0x21 ≤ c.toNat && c.toNat ≤ 0x7E

/-- Graphic characters but for the given ones. -/
def graphicBut (excluded : String) (c : Char) : Bool := isGraphic c && !excluded.toList.contains c

/-- Kept in a fragment. -/
def fragmentKeeps : Char → Bool := graphicBut "\"<>`"

/-- Kept in a query. -/
def queryKeeps : Char → Bool := graphicBut "\"#<>'"

/-- Kept in a path, separators included. -/
def pathKeeps : Char → Bool := graphicBut "\"<>`#?\x7b\x7d"

/-- Kept in one segment of a path. -/
def segmentKeeps : Char → Bool := graphicBut "\"<>`#?\x7b\x7d/%\\"

/-- Kept in a user name and a password. -/
def userKeeps : Char → Bool := graphicBut "\"<>`#?\x7b\x7d/:;=@[\\]^|"

end NetDelegate.Percent
