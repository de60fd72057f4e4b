/-
  NetDelegate/Json/Number.lean
  ============================
  **Numbers of a JSON text.**  A number without fraction and exponent that fits 64 bits stays a
  whole number; every other one is a 64-bit float.  This module has the type and its written
  form; how digits become a float is in `NetDelegate.Json.Token`.
-/
import NetDelegate.Number.Shortest

namespace NetDelegate.Json

/-- A JSON number.  `natural` holds numbers below 2^64 and `negative n` stands for `-n`, where
    `0 < n ≤ 2^63`. -/
inductive Number where
  | natural (n : Nat)
  | negative (n : Nat)
  | real (x : Binary64)
  deriving DecidableEq, Repr

namespace Number

/-- The decimal digits of a natural number. -/
def decimalDigits (n : Nat) : List Char := Nat.toDigits 10 n

/-- Powers of ten of the first digit for which a float is written in positional form. -/
def isPositional (e : Int) : Bool := -5 ≤ e && e ≤ 15

/-- A float that is not zero, without its sign: positional form with at least one place after
    the point, or one digit before the point and an exponent with its sign. -/
def decimalText (d : Decimal) : List Char :=
  let ds := decimalDigits d.digits
  let e := d.exponent + ds.length - 1
  if isPositional e then
    if 0 ≤ d.exponent then ds ++ List.replicate d.exponent.toNat '0' ++ ['.', '0']
    else if 0 ≤ e then ds.take (e.toNat + 1) ++ ['.'] ++ ds.drop (e.toNat + 1)
    else ['0', '.'] ++ List.replicate (-e - 1).toNat '0' ++ ds
  else
    let fraction := match ds.drop 1 with
      | [] => []
      | rest => '.' :: rest
    ds.take 1 ++ fraction ++ ['e', if 0 ≤ e then '+' else '-'] ++ decimalDigits e.natAbs

/-- The written form of a number. -/
def text : Number → List Char
  | natural n => decimalDigits n
  | negative n => '-' :: decimalDigits n
  | real x =>
    (if x.negative then ['-'] else []) ++
      if x.isZero then ['0', '.', '0']
      else decimalText (Decimal.shortest x.significand x.exponent)

end Number

end NetDelegate.Json
