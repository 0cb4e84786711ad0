import StyleValue.Number.Basic
import StyleValue.Decimal.Context
import StyleValue.Decimal.Shortest

/-!
# How numbers are written

Three written forms of a number: `Number.shortText`, the shortest one that reads back, in which a
whole number shows no point; `Number.fixedText?`, rounded to a number of fractional digits; and
`Number.literal`, which tells a floating-point number from a whole one.  A text may have any number
of digits; a limit that a host may set to them is not modelled.
-/

namespace StyleValue

/-- Digits enough for the whole part of every finite number. -/
def floatDigits : Nat := 400

/-- Text for the numbers that have no digits. -/
structure NonFiniteText where
  nan : String
  infinity : String

/-- How values show the numbers that have no digits. -/
def NonFiniteText.value : NonFiniteText := ⟨"NaN", "Infinity"⟩

/-- How literals show the numbers that have no digits. -/
def NonFiniteText.literal : NonFiniteText := ⟨"nan", "inf"⟩

namespace Binary64

/-- The text of an infinity. -/
def infinityText (words : NonFiniteText) (negative : Bool) : String :=
  (if negative then "-" else "") ++ words.infinity

/-- A number is written out in full when its point stands after at most 16 digits, or at most three
zeros lie between it and the first digit. -/
def isPlain (d : Decimal) : Bool :=
  -4 < d.pointPosition ∧ d.pointPosition ≤ 16

/-- The shortest text that reads back and shows a point or an exponent. -/
def literal : Binary64 → String
  | .nan => NonFiniteText.literal.nan
  | .infinity negative => infinityText .literal negative
  | .finite negative units h =>
      let d := shortest negative units
      if isPlain d then
        d.plain ++ (if (finite negative units h).toInt?.isSome then ".0" else "")
      else
        d.scientific

end Binary64

namespace Number

/-- The text of a number in values: whole numbers without a point, others in the shortest form that
reads back. -/
def shortText : Number → String
  | .int n => (Decimal.ofInt n).plain
  | .float .nan => NonFiniteText.value.nan
  | .float (.infinity negative) => Binary64.infinityText .value negative
  | .float x =>
      match x.toInt? with
      | some n => (Decimal.ofInt n).plain
      | none => x.literal

/-- The text of a number rounded to `precision` fractional digits, of which a negative number counts
digits before the point.  Whole numbers are not rounded. -/
def fixedText? (precision : Int) : Number → Except PrecisionError String
  | .int n => .ok (Decimal.ofInt n).plain
  | .float .nan => .ok NonFiniteText.value.nan
  | .float (.infinity negative) => .ok (Binary64.infinityText .value negative)
  | .float (.finite negative units _) => do
      let context ← DecimalContext.ofWidth? (floatDigits + precision)
      let rounded ← context.quantize (Binary64.exact negative units) (-precision)
      return if rounded.digits = 0 then "0" else (context.normalize rounded).plain

/-- The text of a number as a literal. -/
def literal : Number → String
  | .int n => (Decimal.ofInt n).plain
  | .float x => x.literal

end Number

end StyleValue
