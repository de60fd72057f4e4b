/-
  NetDelegate/Number/Shortest.lean
  ================================
  **The fewest digits that read back.**  Among the decimals that round to a given binary number
  `Decimal.shortest` takes one with the fewest digits, of these the nearest, and of two equally
  near ones the even one.

  The numbers that round to `m * 2 ^ e` form an interval around it, which holds its ends exactly
  if `m` is even.  Decimal grids are tried from coarse to fine; if a grid has a point in the
  interval, so has one of the two neighbours of the number on that grid.
-/
import NetDelegate.Number.Binary64

namespace NetDelegate

/-- The number `digits * 10 ^ exponent`. -/
structure Decimal where
  digits : Nat
  exponent : Int
  deriving DecidableEq, Repr

namespace Decimal

/-- The grid point of step `10 ^ k` that stands for `m * 2 ^ e`, if one rounds to it. -/
def onGrid? (m : Nat) (e k : Int) : Option Nat :=
  -- quarters of the binary unit, so that both ends of the interval are whole
  let q := e - 2
  let tens := Nat.pow 10 k.toNat * Nat.pow 2 (-q).toNat
  let twos := Nat.pow 2 q.toNat * Nat.pow 10 (-k).toNat
  let value := 4 * m * twos
  let high := (4 * m + 2) * twos
  let isFirst := m = Binary64.leastNormal ∧ Binary64.minExponent < e
  let low := (if isFirst then 4 * m - 1 else 4 * m - 2) * twos
  let inside (c : Nat) : Bool :=
    if m % 2 = 0 then low ≤ c * tens && c * tens ≤ high
    else low < c * tens && c * tens < high
  let below := value / tens
  let above := below + 1
  match inside below, inside above with
  | true, false => some below
  | false, true => some above
  | true, true =>
    let down := value - below * tens
    let up := above * tens - value
    if down < up then some below
    else if up < down then some above
    else if below % 2 = 0 then some below else some above
  | false, false => none

/-- The first grid point found on the grids `10 ^ k`, `10 ^ (k - 1)`, … -/
def descend (m : Nat) (e : Int) : Nat → Int → Decimal
  | 0, k => ⟨0, k⟩
  | steps + 1, k =>
    match onGrid? m e k with
    | some digits => ⟨digits, k⟩
    | none => descend m e steps (k - 1)

/-- The shortest decimal for `m * 2 ^ e`, where `m` is not zero.  The first grid is coarser than
    the number, and seventeen digits always suffice. -/
def shortest (m : Nat) (e : Int) : Decimal :=
  descend m e 24 (((m.log2 : Int) + e) * 30103 / 100000 + 2)

end Decimal

end NetDelegate
