import StyleValue.Decimal.Basic
import StyleValue.Rounding

/-!
# Decimal contexts

A `DecimalContext` says how many digits are kept in what is computed with decimals.
`DecimalContext.quantize` rounds a decimal to a whole multiple of a power of ten and is refused when
that has more digits.  `DecimalContext.normalize` rounds to the digits that are kept and leaves out
the zeros at the end.

A context bounds exponents as well, by 999999 on either side of zero.  No exponent that a number of
the floating-point range leads to lies outside, and the bounds are not modelled.
-/

namespace StyleValue

/-- Why a number cannot be rounded to a number of fractional digits. -/
inductive PrecisionError where
  /-- No digit would be kept of any number. -/
  | tooCoarse
  /-- The rounded number has more digits than are kept. -/
  | tooManyDigits
  deriving DecidableEq

/-- How many digits are kept, at least one. -/
structure DecimalContext where
  width : Nat
  positive : 0 < width

/-- The decimal without the zeros at the end of its digits, or without `count` of them if there are
more. -/
def Decimal.dropZeros : (count : Nat) → Decimal → Decimal
  | 0, d => d
  | count + 1, d =>
      if d.digits % 10 = 0 then
        dropZeros count ⟨d.negative, d.digits / 10, d.exponent + 1⟩
      else
        d

namespace DecimalContext

/-- The context that keeps `width` digits. -/
def ofWidth? (width : Int) : Except PrecisionError DecimalContext :=
  if h : 0 < width then .ok ⟨width.toNat, Int.pos_iff_toNat_pos.mp h⟩ else .error .tooCoarse

/-- The multiple of `10 ^ exponent` nearest to the decimal, an exact half away from zero. -/
def quantize (context : DecimalContext) (d : Decimal) (exponent : Int) :
    Except PrecisionError Decimal :=
  let shift := d.exponent - exponent
  let digits := Rounding.halfUp (d.digits * 10 ^ shift.toNat) (10 ^ (-shift).toNat)
  if digits < 10 ^ context.width then
    .ok ⟨d.negative, digits, exponent⟩
  else
    .error .tooManyDigits

/-- The decimal rounded to the digits that are kept, an exact half to the even neighbour.  A carry
beyond them leaves a zero at the end. -/
def fit (context : DecimalContext) (d : Decimal) : Decimal :=
  let excess := (Nat.toDigits 10 d.digits).length - context.width
  ⟨d.negative, Rounding.halfEven d.digits (10 ^ excess), d.exponent + excess⟩

/-- The decimal rounded to the digits that are kept, without zeros at the end. -/
def normalize (context : DecimalContext) (d : Decimal) : Decimal :=
  let fitted := context.fit d
  if fitted.digits = 0 then
    ⟨d.negative, 0, 0⟩
  else
    fitted.dropZeros (Nat.toDigits 10 fitted.digits).length

end DecimalContext

end StyleValue
