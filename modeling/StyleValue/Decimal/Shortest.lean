import StyleValue.Binary64.Basic
import StyleValue.Decimal.Basic

/-!
# Shortest decimals

A decimal *reads back* as a floating-point number when that number is the nearest one to it.
`Binary64.shortest` is the decimal with the fewest digits that reads back, and among those the
nearest one.  It is found on the grids of the multiples of 10ᵉ, from coarse to fine: on each grid
only the two neighbours of the number can read back if any point does, and on the grid of 10⁻¹⁰⁷⁴
the number itself is a point.
-/

namespace StyleValue.Binary64

/-- The decimal `c * 10 ^ e` reads back as the given number of units. -/
def readsBack (units c : Nat) (e : Int) : Bool :=
  nearestUnits (c * 10 ^ e.toNat * unitsPerOne) (10 ^ (-e).toNat) = units

/-- The multiple of 10ᵉ next to the given number of units that reads back; of two, the nearer one,
and of two at one distance the even one. -/
def onGrid? (units : Nat) (e : Int) : Option Nat :=
  let num := units * 10 ^ (-e).toNat
  let den := unitsPerOne * 10 ^ e.toNat
  [Rounding.halfEven num den, num / den, num / den + 1].find? fun c => readsBack units c e

/-- The exponent of the finest grid, on which every finite number is a point. -/
def finest : Int := -1074

/-- A finite number as a decimal, without rounding. -/
def exact (negative : Bool) (units : Nat) : Decimal := ⟨negative, units * 5 ^ 1074, finest⟩

/-- The exponents of the `count` grids above the finest, from the coarsest of them on. -/
def coarserExponents (count : Nat) : List Int :=
  (List.range count).reverse.map fun k : Nat => finest + (k + 1)

/-- The shortest decimal of a finite number: the first one that reads back, or else the number
itself.  The coarsest grid worth trying is that of the power of ten above its whole part. -/
def shortest (negative : Bool) (units : Nat) : Decimal :=
  let count := 1074 + (Nat.toDigits 10 (units / unitsPerOne)).length
  let first? := (coarserExponents count).findSome? fun e =>
    (onGrid? units e).map fun c => ⟨negative, c, e⟩
  first?.getD (exact negative units)

end StyleValue.Binary64
