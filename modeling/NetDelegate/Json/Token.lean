/-
  NetDelegate/Json/Token.lean
  ===========================
  **The tokens of a JSON text: blanks, literals, strings and numbers.**  Each reader takes the
  unread bytes and gives what it read with the bytes that remain.

  A number with a fraction or an exponent, or too long for 64 bits, becomes a float in one step:
  the digits that fit 64 bits form a whole number, later digits of the integer part count as
  powers of ten and later digits of the fraction are dropped; then the whole number is multiplied
  or divided once by the power of ten.  The result is close to the text's value but not always
  the float nearest to it.
-/
import NetDelegate.Json.Issue
import NetDelegate.Json.Value

namespace NetDelegate.Json

/-- The byte of an ASCII character. -/
def ascii (c : Char) : UInt8 := UInt8.ofNat c.toNat

/-! ### Blanks and literals -/

/-- Blanks between tokens. -/
def isSpace (b : UInt8) : Bool := b = 0x20 || b = 0x0A || b = 0x0D || b = 0x09

/-- Passes over blanks. -/
def skipSpace (input : Bytes) : Bytes := input.dropWhile isSpace

/-- Reads the remaining letters of a literal. -/
def literal : List Char → Bytes → Except Stop Bytes
  | [], input => .ok input
  | _ :: _, [] => stopBefore .endInValue []
  | c :: cs, b :: rest => if b = ascii c then literal cs rest else stopBefore .literalExpected rest

/-! ### Strings -/

/-- The value of a hexadecimal digit. -/
def hexByte? (b : UInt8) : Option Nat := hexValue? (Char.ofNat b.toNat)

/-- The number of four hexadecimal digits. -/
def hexFour? (a b c d : UInt8) : Option Nat := do
  let a ← hexByte? a
  let b ← hexByte? b
  let c ← hexByte? c
  let d ← hexByte? d
  return ((a * 16 + b) * 16 + c) * 16 + d

/-- Reads the four digits of an escape. -/
def hexEscape : Bytes → Except Stop (Nat × Bytes)
  | a :: b :: c :: d :: rest =>
    match hexFour? a b c d with
    | some n => .ok (n, rest)
    | none => stopBefore .invalidEscape rest
  | _ => stopBefore .endInString []

/-- The character of a short escape. -/
def shortEscape? (b : UInt8) : Option Char :=
  if b = ascii '"' then some '"'
  else if b = ascii '\\' then some '\\'
  else if b = ascii '/' then some '/'
  else if b = ascii 'b' then some '\x08'
  else if b = ascii 'f' then some '\x0c'
  else if b = ascii 'n' then some '\n'
  else if b = ascii 'r' then some '\r'
  else if b = ascii 't' then some '\t'
  else none

/-- Is the number a leading surrogate? -/
def isLeading (n : Nat) : Bool := 0xD800 ≤ n && n ≤ 0xDBFF

/-- Is the number a trailing surrogate? -/
def isTrailing (n : Nat) : Bool := 0xDC00 ≤ n && n ≤ 0xDFFF

/-- Takes one given byte, which continues a pair of surrogates. -/
def pairByte (c : Char) : Bytes → Except Stop Bytes
  | [] => stopBefore .endInString []
  | b :: rest => if b = ascii c then .ok rest else stopBefore .unfinishedSurrogate rest

/-- Reads an escape after its backslash.  Surrogates come in pairs of a leading and a trailing
    one, which stand for one character. -/
def escaped : Bytes → Except Stop (Char × Bytes)
  | [] => stopBefore .endInString []
  | b :: rest =>
    match shortEscape? b with
    | some c => .ok (c, rest)
    | none =>
      if b = ascii 'u' then do
        let (n, rest) ← hexEscape rest
        if isTrailing n then stopBefore .loneSurrogate rest
        else if isLeading n then do
          let rest ← pairByte '\\' rest
          let rest ← pairByte 'u' rest
          let (m, rest) ← hexEscape rest
          if isTrailing m then
            .ok (Char.ofNat ((n - 0xD800) * 0x400 + (m - 0xDC00) + 0x10000), rest)
          else stopBefore .loneSurrogate rest
        else .ok (Char.ofNat n, rest)
      else stopBefore .invalidEscape rest

/-- Reads a string after its opening quote, as bytes.  Every step takes a byte at least, so as
    many steps as there are bytes suffice. -/
def stringBytes : Nat → Bytes → Except Stop (Bytes × Bytes)
  | 0, _ => stopBefore .endInString []
  | _ + 1, [] => stopBefore .endInString []
  | steps + 1, b :: rest =>
    if b = ascii '"' then .ok ([], rest)
    else if b = ascii '\\' then do
      let (c, rest) ← escaped rest
      let (s, rest) ← stringBytes steps rest
      .ok (Utf8.encodeChar c ++ s, rest)
    else if b < 0x20 then stopBefore .controlCharacter rest
    else do
      let (s, rest) ← stringBytes steps rest
      .ok (b :: s, rest)

/-- Reads a string after its opening quote.  Bytes that are no text are reported at the first of
    them. -/
def stringBody (input : Bytes) : Except Stop (String × Bytes) := do
  let (s, rest) ← stringBytes (input.length + 1) input
  match s.text? with
  | some s => .ok (s, rest)
  | none => stopOn .invalidCodePoint (input.drop (Utf8.textLength input))

/-! ### Numbers -/

/-- Is the byte a digit? -/
def isDigit (b : UInt8) : Bool := ascii '0' ≤ b && b ≤ ascii '9'

/-- The value of a digit. -/
def digitValue (b : UInt8) : Nat := b.toNat - 48

/-- Does a digit come next? -/
def digitNext : Bytes → Bool
  | [] => false
  | b :: _ => isDigit b

/-- The greatest whole number of 64 bits. -/
def maxWord : Nat := 0xFFFFFFFFFFFFFFFF

/-- Adds digits to a whole number as long as it fits 64 bits; the result counts them. -/
def takeDigits (n count : Nat) : Bytes → Nat × Nat × Bytes
  | [] => (n, count, [])
  | b :: rest =>
    if isDigit b && n * 10 + digitValue b ≤ maxWord then
      takeDigits (n * 10 + digitValue b) (count + 1) rest
    else (n, count, b :: rest)

/-- Divides by a power of ten, 308 places at a time, until the rest is small or nothing is left. -/
def dividedByTens (x : Binary64) (places : Nat) : Option Binary64 :=
  if places ≤ 308 then (Binary64.tenPow? places).bind x.div?
  else if x.isZero then some x
  else ((Binary64.tenPow? 308).bind x.div?).bind fun y => dividedByTens y (places - 308)
termination_by places

/-- The float of a whole number times a power of ten; `none` if it is too large. -/
def scaled (negative : Bool) (n : Nat) (power : Int) : Option Binary64 := do
  let x ← Binary64.ofNat? negative n
  if 0 ≤ power then
    if power ≤ 308 then (Binary64.tenPow? power.toNat).bind x.mul?
    else if x.isZero then some x else none
  else dividedByTens x (-power).toNat

/-- Ends a float. -/
def finishReal (negative : Bool) (n : Nat) (power : Int) (rest : Bytes) :
    Except Stop (Number × Bytes) :=
  match scaled negative n power with
  | some x => .ok (.real x, rest)
  | none => stopBefore .numberOutOfRange rest

/-- The greatest exponent that is added up; past it only the sign matters. -/
def maxExponent : Nat := 0x7FFFFFFF

/-- Reads the digits of an exponent after the first; `none` if it grows past all bounds. -/
def exponentDigits (n : Nat) : Bytes → Option Nat × Bytes
  | [] => (some n, [])
  | b :: rest =>
    if isDigit b then
      if n * 10 + digitValue b ≤ maxExponent then exponentDigits (n * 10 + digitValue b) rest
      else (none, rest)
    else (some n, b :: rest)

/-- Reads an exponent after its letter and ends the float. -/
def exponentPart (negative : Bool) (n : Nat) (power : Int) (input : Bytes) :
    Except Stop (Number × Bytes) :=
  let (down, input) := match input with
    | b :: rest =>
      if b = ascii '+' then (false, rest) else if b = ascii '-' then (true, rest) else (false, input)
    | [] => (false, [])
  match input with
  | [] => stopBefore .endInValue []
  | b :: rest =>
    if isDigit b then
      match exponentDigits (digitValue b) rest with
      | (some e, rest) => finishReal negative n (if down then power - e else power + e) rest
      | (none, rest) =>
        if n ≠ 0 ∧ down = false then stopBefore .numberOutOfRange rest
        else .ok (.real (Binary64.zero negative), rest.dropWhile isDigit)
    else stopBefore .invalidNumber rest

/-- Reads an exponent, if there is one, and ends the float. -/
def afterDigits (negative : Bool) (n : Nat) (power : Int) : Bytes → Except Stop (Number × Bytes)
  | [] => finishReal negative n power []
  | b :: rest =>
    if b = ascii 'e' || b = ascii 'E' then exponentPart negative n power rest
    else finishReal negative n power (b :: rest)

/-- Reads a fraction after its point and ends the float. -/
def fractionPart (negative : Bool) (n : Nat) (power : Int) (input : Bytes) :
    Except Stop (Number × Bytes) :=
  let (n, count, rest) := takeDigits n 0 input
  if count = 0 ∧ digitNext rest = false then
    stopOn (if rest = [] then .endInValue else .invalidNumber) rest
  else afterDigits negative n (power - count) (rest.dropWhile isDigit)

/-- Ends a whole number. -/
def finishWhole (negative : Bool) (n : Nat) (rest : Bytes) : Number × Bytes :=
  if negative then
    if 0 < n ∧ n ≤ 0x8000000000000000 then (.negative n, rest)
    else match Binary64.ofNat? true n with
      | some x => (.real x, rest)
      | none => (.real (Binary64.zero true), rest)
  else (.natural n, rest)

/-- Reads what follows the integer part `n`, which fits 64 bits. -/
def afterInteger (negative : Bool) (n : Nat) (rest : Bytes) : Except Stop (Number × Bytes) :=
  match rest with
  | [] => .ok (finishWhole negative n [])
  | b :: more =>
    if b = ascii '.' then fractionPart negative n 0 more
    else if b = ascii 'e' || b = ascii 'E' then exponentPart negative n 0 more
    else .ok (finishWhole negative n rest)

/-- Reads the digits of an integer part that are too many for 64 bits, and what follows. -/
def afterLongInteger (negative : Bool) (n : Nat) (input : Bytes) : Except Stop (Number × Bytes) :=
  let power : Int := (input.takeWhile isDigit).length
  match input.dropWhile isDigit with
  | [] => finishReal negative n power []
  | b :: more =>
    if b = ascii '.' then fractionPart negative n power more
    else afterDigits negative n power (b :: more)

/-- Reads a number after its sign. -/
def numberBody (negative : Bool) : Bytes → Except Stop (Number × Bytes)
  | [] => stopBefore .endInValue []
  | b :: rest =>
    if b = ascii '0' then
      if digitNext rest then stopOn .invalidNumber rest else afterInteger negative 0 rest
    else if isDigit b then
      let (n, _, rest) := takeDigits (digitValue b) 1 rest
      if digitNext rest then afterLongInteger negative n rest else afterInteger negative n rest
    else stopBefore .invalidNumber rest

end NetDelegate.Json
