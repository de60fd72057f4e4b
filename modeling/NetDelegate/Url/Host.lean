/-
  NetDelegate/Url/Host.lean
  =========================
  **Hosts of network addresses:** names, four-byte addresses and sixteen-byte addresses.

  A name whose last part is a number is an address of four bytes.  Its parts may be decimal,
  octal (`0` in front) or hexadecimal (`0x` in front), and the last one fills the bytes that are
  left.  A sixteen-byte address is written in brackets, as eight pieces of which one run of zeros
  may be left out.
-/
import NetDelegate.Json.Number
import NetDelegate.Text.CodeSet

namespace NetDelegate

/-- A host. -/
inductive Host where
  | domain (name : String)
  | ipv4 (address : Nat)
  | ipv6 (pieces : List Nat)
  deriving DecidableEq, Repr

namespace Host

/-! ### Four-byte addresses -/

/-- The value of digits in a base, if all of them are digits of it. -/
def ofDigits? (base : Nat) (cs : List Char) : Option Nat :=
  cs.foldl (fun n c => do
    let n ← n
    let d ← hexValue? c
    if d < base then some (n * base + d) else none) (some 0)

/-- The number that a part of a four-byte address spells.  A prefix without digits is zero. -/
def part? (cs : List Char) : Option Nat :=
  match cs with
  | [] => none
  | '0' :: 'x' :: ds => ofDigits? 16 ds
  | '0' :: 'X' :: ds => ofDigits? 16 ds
  | '0' :: d :: ds => ofDigits? 8 (d :: ds)
  | ds => ofDigits? 10 ds

/-- The parts of a name; an empty part after the last dot does not count. -/
def parts (name : List Char) : List (List Char) :=
  let ps := splitWhere (· = '.') name
  if ps.getLast? = some [] then ps.dropLast else ps

/-- Is the last part of a name a number? -/
def endsInNumber (name : List Char) : Bool :=
  match (parts name).getLast? with
  | none => false
  | some [] => false
  | some last => last.all Char.isDigit || (part? last).isSome

/-- The four-byte address that a name spells. -/
def ipv4? (name : List Char) : Option Nat := do
  let numbers ← (parts name).mapM part?
  let last ← numbers.getLast?
  let bytes := numbers.dropLast
  if 4 < numbers.length then none
  else if Nat.pow 256 (5 - numbers.length) ≤ last then none
  else if bytes.any (255 < ·) then none
  else
    let front := bytes.foldl (fun n b => n * 256 + b) 0
    some (front * Nat.pow 256 (4 - bytes.length) + last)

/-- The written form of a four-byte address. -/
def ipv4Text (n : Nat) : List Char :=
  let byte (unit : Nat) : List Char := Json.Number.decimalDigits (n / unit % 256)
  byte 0x1000000 ++ ['.'] ++ byte 0x10000 ++ ['.'] ++ byte 0x100 ++ ['.'] ++ byte 1

/-! ### Sixteen-byte addresses -/

/-- The pieces read so far, and how many of them stand before the gap, if there is one. -/
structure Pieces where
  pieces : List Nat
  gap : Option Nat

namespace Pieces

/-- The number of pieces; a gap stands for one at least. -/
def count (p : Pieces) : Nat := p.pieces.length + if p.gap.isSome then 1 else 0

/-- One more piece. -/
def push (p : Pieces) (n : Nat) : Pieces := { p with pieces := p.pieces ++ [n] }

/-- All eight pieces: the gap is filled with zeros. -/
def finish? (p : Pieces) : Option (List Nat) :=
  match p.gap with
  | none => if p.pieces.length = 8 then some p.pieces else none
  | some g =>
    some (p.pieces.take g ++ List.replicate (8 - p.pieces.length) 0 ++ p.pieces.drop g)

end Pieces

/-- The value of a decimal byte without needless zeros. -/
def decimalByte? (cs : List Char) : Option Nat :=
  if cs = [] ∨ (1 < cs.length ∧ cs.head? = some '0') ∨ 3 < cs.length then none
  else do
    let n ← ofDigits? 10 cs
    if n < 256 then some n else none

/-- The last two pieces, written as four decimal bytes. -/
def embedded? (cs : List Char) : Option (Nat × Nat) := do
  match ← (splitWhere (· = '.') cs).mapM decimalByte? with
  | [a, b, c, d] => some (a * 256 + b, c * 256 + d)
  | _ => none

/-- Reads pieces.  Every step takes a character at least, so as many steps as there are
    characters suffice. -/
def readPieces : Nat → Pieces → List Char → Option Pieces
  | 0, _, _ => none
  | _ + 1, p, [] => some p
  | steps + 1, p, c :: cs =>
    if p.count = 8 then none
    else if c = ':' then
      if p.gap.isSome then none
      else readPieces steps { p with gap := some p.pieces.length } cs
    else
      let digits := ((c :: cs).take 4).takeWhile fun d => (hexValue? d).isSome
      let n := hexNumber digits
      match (c :: cs).drop digits.length with
      | [] => some (p.push n)
      | '.' :: _ =>
        if digits = [] ∨ 6 < p.count then none
        else (embedded? (c :: cs)).map fun (a, b) => (p.push a).push b
      | ':' :: rest => if rest = [] then none else readPieces steps (p.push n) rest
      | _ => none

/-- The sixteen-byte address that a text without brackets spells. -/
def ipv6? (cs : List Char) : Option (List Nat) :=
  match cs with
  | ':' :: ':' :: rest => (readPieces (rest.length + 1) ⟨[], some 0⟩ rest).bind Pieces.finish?
  | ':' :: _ => none
  | [] | [_] => none
  | _ => (readPieces (cs.length + 1) ⟨[], none⟩ cs).bind Pieces.finish?

/-- The number of zeros at the start. -/
def zerosAt (pieces : List Nat) : Nat := (pieces.takeWhile (· = 0)).length

/-- Start and length of the first longest run of zeros. -/
def longestZeros (pieces : List Nat) : Nat × Nat :=
  (List.range pieces.length).foldl
    (fun best i =>
      let n := zerosAt (pieces.drop i)
      if best.2 < n then (i, n) else best)
    (0, 0)

/-- Pieces with colons between them. -/
def colonJoined (pieces : List Nat) : List Char :=
  [':'].intercalate (pieces.map (Nat.toDigits 16 ·))

/-- The written form of a sixteen-byte address, without brackets: the first longest run of at
    least two zeros is left out. -/
def ipv6Text (pieces : List Nat) : List Char :=
  let (start, length) := longestZeros pieces
  if length < 2 then colonJoined pieces
  else colonJoined (pieces.take start) ++ [':', ':'] ++ colonJoined (pieces.drop (start + length))

/-! ### Hosts -/

/-- The written form of a host. -/
def text : Host → List Char
  | domain name => name.toList
  | ipv4 n => ipv4Text n
  | ipv6 pieces => '[' :: (ipv6Text pieces ++ [']'])

end Host

end NetDelegate
