/-
  NetDelegate/Number/Binary64.lean
  ================================
  **Finite 64-bit binary floating point, in exact arithmetic.**  A number is a sign, a
  significand below 2^53 and a power of two.  Every operation takes the exact result as a
  fraction and rounds it once, to the nearest representable number, a tie going to the even
  significand; `none` says that the result is too large.
-/

namespace NetDelegate

/-- The number `± significand * 2 ^ exponent`. -/
structure Binary64 where
  negative : Bool
  significand : Nat
  exponent : Int
  deriving DecidableEq, Repr

namespace Binary64

/-- The least exponent. -/
def minExponent : Int := -1074

/-- The greatest exponent of a finite number. -/
def maxExponent : Int := 971

/-- The first number that needs more than 53 bits. -/
def significandLimit : Nat := 0x20000000000000

/-- The least significand of a number that is not near zero. -/
def leastNormal : Nat := 0x10000000000000

/-- Zero with a sign. -/
def zero (negative : Bool) : Binary64 := ⟨negative, 0, minExponent⟩

/-- The quotient rounded to the nearest whole number, a tie to the even one. -/
def roundDiv (num den : Nat) : Nat :=
  let q := num / den
  let r := num % den
  if den < 2 * r ∨ (2 * r = den ∧ q % 2 = 1) then q + 1 else q

/-- The fraction `num / den` divided by `2 ^ e`. -/
def shifted (num den : Nat) (e : Int) : Nat × Nat :=
  if 0 ≤ e then (num, den * Nat.pow 2 e.toNat) else (num * Nat.pow 2 (-e).toNat, den)

/-- The nonnegative number nearest to `num / den`, as significand and exponent. -/
def nearest? (num den : Nat) : Option (Nat × Int) :=
  if num = 0 then some (0, minExponent)
  else
    let low : Int := (num.log2 : Int) - (den.log2 : Int) - 53
    let (n₀, d₀) := shifted num den low
    let fitting := if n₀ / d₀ < significandLimit then low else low + 1
    let e := max fitting minExponent
    let (n, d) := shifted num den e
    let m := roundDiv n d
    let (m, e) := if m = significandLimit then (leastNormal, e + 1) else (m, e)
    if maxExponent < e then none else some (m, e)

/-- The number nearest to `num / den * 2 ^ e`, with a sign. -/
def ofFraction? (negative : Bool) (num den : Nat) (e : Int) : Option Binary64 :=
  let (n, d) := shifted num den (-e)
  (nearest? n d).map fun (m, e) => ⟨negative, m, e⟩

/-- The number nearest to a whole number. -/
def ofNat? (negative : Bool) (n : Nat) : Option Binary64 := ofFraction? negative n 1 0

/-- The number nearest to a power of ten. -/
def tenPow? (k : Nat) : Option Binary64 := ofNat? false (Nat.pow 10 k)

/-- The rounded product of a number and an unsigned one. -/
def mul? (x y : Binary64) : Option Binary64 :=
  ofFraction? x.negative (x.significand * y.significand) 1 (x.exponent + y.exponent)

/-- The rounded quotient of a number by an unsigned one that is not zero. -/
def div? (x y : Binary64) : Option Binary64 :=
  ofFraction? x.negative x.significand y.significand (x.exponent - y.exponent)

/-- Is the number a zero of either sign? -/
def isZero (x : Binary64) : Bool := x.significand = 0

end Binary64

end NetDelegate
