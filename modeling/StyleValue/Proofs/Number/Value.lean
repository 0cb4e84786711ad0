import Mathlib.Algebra.Order.Ring.Abs
import StyleValue.Proofs.Binary64.Sum

/-!
# Exact values

The exact value of a finite number is a rational number: the number of units to where the number
lies, over the number of units in one.
-/

namespace StyleValue

/-- The exact value at a place; the ends of the line have none. -/
def Position.value? : Position → Option Rat
  | .units n => some (n / Binary64.unitsPerOne)
  | _ => none

namespace Number

/-- The exact value of a finite number. -/
def value? (x : Number) : Option Rat := x.position?.bind Position.value?

theorem cast_unitsPerOne_pos :
  (0 : Rat) < Binary64.unitsPerOne
  := Nat.cast_pos.mpr Binary64.unitsPerOne_pos

theorem cast_unitsPerOne_ne_zero :
  (Binary64.unitsPerOne : Rat) ≠ 0
  := cast_unitsPerOne_pos.ne'

/-- A number with a value lies that many ones from the origin. -/
theorem value?_eq_some_iff {x : Number} {v : Rat} :
  x.value? = some v ↔ ∃ m : Int, x.position? = some (.units m) ∧ v * Binary64.unitsPerOne = m
  := by
  have unit := cast_unitsPerOne_ne_zero
  rw [value?, Option.bind_eq_some_iff]
  constructor
  · rintro ⟨_ | m | _, place, value⟩
    · cases value
    · cases value
      exact ⟨m, place, div_mul_cancel₀ _ unit⟩
    · cases value
  · rintro ⟨m, place, scaled⟩
    use .units m, place
    rw [Position.value?, ← scaled, mul_div_cancel_right₀ _ unit]

/-- A number at a whole place has that whole value. -/
theorem value?_of_whole {x : Number} {n : Int}
    (place : x.position? = some (.units (n * Binary64.unitsPerOne))) :
  x.value? = some (n : Rat)
  := by
  apply value?_eq_some_iff.mpr
  use n * Binary64.unitsPerOne, place
  push_cast
  rfl

theorem value?_int (n : Int) :
  (int n).value? = some (n : Rat)
  := value?_of_whole rfl

theorem units_eq_zero_iff {v : Rat} {m : Int} (scaled : v * Binary64.unitsPerOne = m) :
  m = 0 ↔ v = 0
  := by
  rw [← Int.cast_eq_zero (α := Rat), ← scaled, mul_eq_zero, or_iff_left cast_unitsPerOne_ne_zero]

/-- The zeros are the numbers with the value zero. -/
theorem isZero_of_value? {x : Number} {v : Rat} (h : x.value? = some v) :
  x.isZero = decide (v = 0)
  := by
  obtain ⟨m, place, scaled⟩ := value?_eq_some_iff.mp h
  rw [isZero_of_position? place, decide_eq_decide, units_eq_zero_iff scaled]

/-- Numbers lie whole ones apart when their values differ by a whole number. -/
theorem dvd_sub_of_value {v w : Rat} {m n k : Int} (hv : v * Binary64.unitsPerOne = m)
    (hw : w * Binary64.unitsPerOne = n) (apart : w - v = k) :
  n - m = k * Binary64.unitsPerOne
  := by
  have scaled : ((n - m : Int) : Rat) = ((k * Binary64.unitsPerOne : Int) : Rat) := by
    push_cast
    rw [← hw, ← hv, ← sub_mul, apart]
  exact_mod_cast scaled

theorem natAbs_lt_of_abs_lt {v : Rat} {m : Int} {c : Nat} (h : |v| < c)
    (scaled : v * Binary64.unitsPerOne = m) :
  m.natAbs < c * Binary64.unitsPerOne
  := by
  have less : |(m : Rat)| < c * Binary64.unitsPerOne := by
    rw [← scaled, abs_mul, abs_of_pos cast_unitsPerOne_pos]
    apply mul_lt_mul_of_pos_right h cast_unitsPerOne_pos
  rw [← Int.cast_abs, Int.abs_eq_natAbs] at less
  exact_mod_cast less

end Number

end StyleValue
