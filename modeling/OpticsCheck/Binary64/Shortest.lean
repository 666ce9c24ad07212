import OpticsCheck.Binary64.Basic

/-!
# Shortest decimals

The decimal with the fewest digits among those that round to a given number, and of these the one
nearest to it. The search walks decimal grids from coarse to fine and looks at the two grid points
around the number; the first grid with a point that rounds to the number wins.
-/

namespace OpticsCheck

/-- The number `digits · 10 ^ exponent`. -/
structure Decimal where
  digits : Nat
  exponent : Int
deriving DecidableEq, Repr

/-- Which of two equally near decimals is taken. -/
inductive Tie where
  | up
  | even
deriving DecidableEq, Repr

namespace Binary64

/-- The reals that round to a number, in units of `2 ^ (exponent - 2)`: from `low` to `high`, the
ends included when `closed`. -/
structure Basin where
  low : Nat
  mid : Nat
  high : Nat
  closed : Bool

def basin (x : Binary64) : Basin :=
  let m := x.significand
  let narrow := m = exponentUnit ∧ -1074 < x.exponent
  { low := if narrow then 4 * m - 1 else 4 * m - 2
    mid := 4 * m
    high := 4 * m + 2
    closed := m % 2 = 0 }

/-- Whether `point` lies in the basin, all scaled alike. -/
def Basin.holds (b : Basin) (scale point : Nat) : Bool :=
  if b.closed then b.low * scale ≤ point && point ≤ b.high * scale
  else b.low * scale < point && point < b.high * scale

/-- The point of the grid `10 ^ k` that stands for the basin, if one does. -/
def Basin.gridPoint? (b : Basin) (unit : Int) (tie : Tie) (k : Int) : Option Nat :=
  let scale := Nat.pow 10 (-k).toNat <<< unit.toNat
  let step := Nat.pow 10 k.toNat <<< (-unit).toNat
  let below := b.mid * scale / step
  let holdsBelow := b.holds scale (below * step)
  let holdsAbove := b.holds scale ((below + 1) * step)
  if holdsBelow && holdsAbove then
    let rest := 2 * (b.mid * scale - below * step)
    if rest < step then some below
    else if step < rest then some (below + 1)
    else if tie = .even && below % 2 = 0 then some below
    else some (below + 1)
  else if holdsBelow then some below
  else if holdsAbove then some (below + 1)
  else none

def Basin.search (b : Basin) (unit : Int) (tie : Tie) : Nat → Int → Decimal
  | 0, k => ⟨0, k⟩
  | steps + 1, k => match b.gridPoint? unit tie k with
    | some digits => ⟨digits, k⟩
    | none => b.search unit tie steps (k - 1)

/-- A power of ten above a finite number; `30103 / 100000` is a little more than the decimal
logarithm of two. -/
def decimalCeiling (x : Binary64) : Int :=
  (x.significand.log2 + 1 + x.exponent) * 30103 / 100000 + 1

/-- Seventeen digits always suffice, and the ceiling is at most three grids too coarse. -/
def shortest (x : Binary64) (tie : Tie) : Decimal :=
  if x.isZero then ⟨0, 0⟩ else x.basin.search (x.exponent - 2) tie 24 x.decimalCeiling

end Binary64
end OpticsCheck
