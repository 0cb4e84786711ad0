import Mathlib.Data.Rat.Floor
import Mathlib.Data.Sign.Basic
import Mathlib.Tactic.FieldSimp
import StyleValue.Decimal.Context
import StyleValue.Proofs.Decimal.Numeral

/-!
# Rounding in a decimal context

Rounding to fractional digits leads to the nearest multiple of a power of ten, and of two that are
equally near to the one farther from zero (`roundHalfAway`).  That is what a decimal is rounded to
in a context which has room for the digits (`DecimalContext.value_quantize`).  The digits that there
is room for are not rounded again, and zeros at their end do not matter
(`DecimalContext.value_normalize`).
-/

namespace StyleValue

/-! ### Rounding -/

/-- The number rounded to `precision` fractional digits, an exact half away from zero. -/
def roundHalfAway (precision : Int) (v : Rat) : Rat :=
  SignType.sign v * ⌊|v| * 10 ^ precision + 1 / 2⌋ / 10 ^ precision

/-- A number with no more fractional digits is not rounded. -/
theorem roundHalfAway_of_whole {precision : Int} {v : Rat} {m : Int}
    (whole : |v| * 10 ^ precision = m) :
  roundHalfAway precision v = v
  := by
  have floor : ⌊(m : Rat) + 1 / 2⌋ = m := by
    rw [Int.floor_intCast_add]
    norm_num
  rw [roundHalfAway, whole, floor, ← whole, ← mul_assoc, sign_mul_abs,
    mul_div_cancel_right₀ _ (zpow_ne_zero _ (by norm_num))]

/-- A whole number has no fractional digits. -/
theorem roundHalfAway_intCast {precision : Int} (h : 0 ≤ precision) (n : Int) :
  roundHalfAway precision n = n
  := by
  obtain ⟨k, rfl⟩ := Int.eq_ofNat_of_zero_le h
  have whole : |(n : Rat)| * 10 ^ (k : Int) = (|n| * 10 ^ k : Int) := by
    rw [zpow_natCast]
    push_cast
    rfl
  exact roundHalfAway_of_whole whole

theorem Rounding.halfUp_eq_floor (n : Nat) {d : Nat} (h : 0 < d) :
  (halfUp n d : Int) = ⌊(n : Rat) / d + 1 / 2⌋
  := by
  have ratio : (n : Rat) / d + 1 / 2 = (2 * n + d : Nat) / (2 * d : Nat) := by
    push_cast
    field_simp
  rw [ratio, Rat.floor_natCast_div_natCast, halfUp]
  norm_cast

namespace Decimal

theorem value_eq_zero_iff (d : Decimal) :
  d.value = 0 ↔ d.digits = 0
  := by
  have power : (10 : Rat) ^ d.exponent ≠ 0 := zpow_ne_zero _ (by norm_num)
  rw [← abs_eq_zero, abs_value, mul_eq_zero, or_iff_left power, Nat.cast_eq_zero]

theorem sign_value {d : Decimal} (h : d.digits ≠ 0) :
  (SignType.sign d.value : Rat) = if d.negative then -1 else 1
  := by
  have digits : (0 : Rat) < d.digits := Nat.cast_pos.mpr (Nat.pos_of_ne_zero h)
  have positive := mul_pos digits (zpow_pos (by norm_num : (0 : Rat) < 10) d.exponent)
  rw [value, mul_assoc]
  cases d.negative with
  | false =>
      change (SignType.sign ((1 : Rat) * (d.digits * 10 ^ d.exponent)) : Rat) = 1
      rw [one_mul, sign_pos positive]
      rfl
  | true =>
      change (SignType.sign ((-1 : Rat) * (d.digits * 10 ^ d.exponent)) : Rat) = -1
      rw [neg_one_mul, sign_neg (neg_lt_zero.mpr positive)]
      rfl

/-- Moving the point before rounding. -/
theorem halfUp_shift (d : Decimal) (exponent : Int) :
  (Rounding.halfUp (d.digits * 10 ^ (d.exponent - exponent).toNat)
      (10 ^ (-(d.exponent - exponent)).toNat) : Int)
    = ⌊|d.value| * 10 ^ (-exponent) + 1 / 2⌋
  := by
  have ratio : |d.value| * 10 ^ (-exponent)
      = (d.digits * 10 ^ (d.exponent - exponent).toNat : Nat)
        / (10 ^ (-(d.exponent - exponent)).toNat : Nat) := by
    rw [abs_value, mul_assoc, ← zpow_add₀ (by norm_num), ← sub_eq_add_neg, ten_zpow, mul_div_assoc']
    push_cast
    rfl
  rw [ratio, Rounding.halfUp_eq_floor]
  apply Nat.pow_pos (by decide)

/-! ### Zeros at the end -/

theorem value_dropZeros (count : Nat) (d : Decimal) :
  (d.dropZeros count).value = d.value
  := by
  induction count generalizing d with
  | zero => rfl
  | succ count ih =>
      rw [dropZeros]
      split
      next zero =>
        obtain ⟨q, digits⟩ := Nat.dvd_of_mod_eq_zero zero
        rw [ih, value, value, digits, Nat.mul_div_cancel_left _ (by decide),
          zpow_add_one₀ (by norm_num)]
        push_cast
        ring
      next => rfl

theorem places_dropZeros_le (count : Nat) (d : Decimal) :
  (d.dropZeros count).places ≤ d.places
  := by
  induction count generalizing d with
  | zero => apply Nat.le_refl
  | succ count ih =>
      rw [dropZeros]
      split
      · apply Nat.le_trans (ih _)
        apply Int.toNat_le_toNat
        change -(d.exponent + 1) ≤ -d.exponent
        omega
      · apply Nat.le_refl

end Decimal

namespace DecimalContext

variable {context : DecimalContext} {d r : Decimal} {exponent : Int}

theorem exists_ofWidth? {width : Int} (h : 0 < width) :
  ∃ context, ofWidth? width = .ok context ∧ (context.width : Int) = width
  := ⟨_, dif_pos h, Int.toNat_of_nonneg (Int.le_of_lt h)⟩

theorem ofWidth?_of_le {width : Int} (h : width ≤ 0) :
  ofWidth? width = .error .tooCoarse
  := dif_neg (Int.not_lt.mpr h)

/-! ### Rounding to a place -/

/-- A decimal is rounded to a place when there is room for its digits up to that place. -/
theorem quantize_isOk_iff :
  (∃ r, context.quantize d exponent = .ok r)
    ↔ ⌊|d.value| * 10 ^ (-exponent) + 1 / 2⌋ < 10 ^ context.width
  := by
  rw [quantize, ← d.halfUp_shift]
  norm_cast
  split
  next room => exact iff_of_true ⟨_, rfl⟩ room
  next full => exact iff_of_false nofun full

theorem parts_of_quantize (h : context.quantize d exponent = .ok r) :
  r.negative = d.negative ∧ r.exponent = exponent
    ∧ (r.digits : Int) = ⌊|d.value| * 10 ^ (-exponent) + 1 / 2⌋
    ∧ r.digits < 10 ^ context.width
  := by
  rw [quantize] at h
  split at h
  next room =>
    cases h
    exact ⟨rfl, rfl, d.halfUp_shift exponent, room⟩
  next => cases h

theorem value_quantize (h : context.quantize d exponent = .ok r) :
  r.value = roundHalfAway (-exponent) d.value
  := by
  obtain ⟨negative, place, digits, -⟩ := parts_of_quantize h
  rw [roundHalfAway, ← digits, Decimal.value, place, negative, zpow_neg, div_inv_eq_mul,
    Int.cast_natCast]
  congr 1
  rcases eq_or_ne d.digits 0 with none | some
  · have half : ⌊(1 / 2 : Rat)⌋ = 0 := by norm_num
    rw [d.value_eq_zero_iff.mpr none, abs_zero, zero_mul, zero_add, half] at digits
    rw [Int.natCast_eq_zero.mp digits, Nat.cast_zero, mul_zero, mul_zero]
  · rw [Decimal.sign_value some]

/-! ### Rounding to the width -/

/-- Digits that there is room for are not rounded. -/
theorem fit_eq_self (room : d.digits < 10 ^ context.width) :
  context.fit d = d
  := by
  have length : (Nat.toDigits 10 d.digits).length ≤ context.width :=
    (Nat.length_toDigits_le_iff (by decide) context.positive).mpr room
  have whole := Rounding.halfEven_mul d.digits 1 (by decide)
  rw [Nat.mul_one] at whole
  rw [fit, Nat.sub_eq_zero_of_le length, Nat.pow_zero, whole, Int.natCast_zero, Int.add_zero]

theorem value_normalize (room : d.digits < 10 ^ context.width) :
  (context.normalize d).value = d.value
  := by
  rw [normalize, fit_eq_self room]
  split
  next zero => rw [d.value_eq_zero_iff.mpr zero, Decimal.value_eq_zero_iff]
  next => apply Decimal.value_dropZeros

theorem places_normalize_le (room : d.digits < 10 ^ context.width) :
  (context.normalize d).places ≤ d.places
  := by
  rw [normalize, fit_eq_self room]
  split
  · apply Nat.zero_le
  · apply Decimal.places_dropZeros_le

end DecimalContext

end StyleValue
