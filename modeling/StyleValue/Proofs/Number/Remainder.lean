import Mathlib.Data.Rat.Floor
import Mathlib.Data.Sign.Basic
import Mathlib.Tactic.Linarith
import Mathlib.Tactic.Positivity
import StyleValue.Proofs.Number.Form
import StyleValue.Proofs.Number.Value

/-!
# Remainders of numbers

The remainder of two numbers of one sort, whole or floating-point, is what the quotient truncated
towards zero leaves of the dividend (`IsRemainder`).  It is exact in both sorts: on floating-point
numbers nothing is rounded (`Number.exists_rem`).
-/

namespace StyleValue

/-! ### Truncation -/

/-- A number without its fraction. -/
def truncated (q : Rat) : Int := if 0 ≤ q then ⌊q⌋ else ⌈q⌉

theorem truncated_neg (q : Rat) :
  truncated (-q) = -truncated q
  := by
  rcases lt_trichotomy q 0 with negative | rfl | positive
  · rw [truncated, truncated, if_pos (by linarith), if_neg (by linarith), Int.floor_neg]
  · rw [neg_zero, truncated, if_pos le_rfl, Int.floor_zero, Int.neg_zero]
  · rw [truncated, truncated, if_neg (by linarith), if_pos positive.le, Int.ceil_neg]

/-- The quotient of two whole numbers without its fraction. -/
theorem truncated_div (m n : Int) :
  truncated (m / n) = m.tdiv n
  := by
  have whole (k j : Nat) : truncated (k / j) = (k : Int).tdiv j := by
    rw [truncated, if_pos (by positivity), Rat.floor_natCast_div_natCast, ← Int.natCast_ediv,
      Int.ofNat_tdiv]
  obtain ⟨k, rfl | rfl⟩ := Int.eq_nat_or_neg m <;> obtain ⟨j, rfl | rfl⟩ := Int.eq_nat_or_neg n
  · apply whole
  · rw [Int.cast_neg, div_neg, truncated_neg, Int.tdiv_neg]
    apply congrArg Neg.neg (whole k j)
  · rw [Int.cast_neg, neg_div, truncated_neg, Int.neg_tdiv]
    apply congrArg Neg.neg (whole k j)
  · rw [Int.cast_neg, Int.cast_neg, neg_div_neg_eq, Int.neg_tdiv_neg]
    apply whole

/-! ### Remainders -/

/-- What the quotient truncated towards zero leaves of the dividend `v`, when `w` is the divisor. -/
structure IsRemainder (v w x : Rat) : Prop where
  quotient : v - x = truncated (v / w) * w
  small : |x| < |w|
  sign : x = 0 ∨ SignType.sign x = SignType.sign v

section

variable {unit : Rat} (positive : 0 < unit)

include positive

theorem sign_of_scaled {v : Rat} {m : Int} (h : v * unit = m) :
  SignType.sign v = SignType.sign (m : Rat)
  := by
  rw [← h, sign_mul, sign_pos positive, mul_one]

/-- Remainders may be taken of whole multiples of a unit. -/
theorem isRemainder_of_scaled
    {v w x : Rat} {m n : Int} (hv : v * unit = m) (hw : w * unit = n) (hx : x * unit = m.tmod n)
    (nonzero : n ≠ 0) :
  IsRemainder v w x
  where
  quotient := by
    apply mul_right_cancel₀ positive.ne'
    calc (v - x) * unit
      _ = (m - m.tmod n : Int) := by rw [sub_mul, hv, hx, Int.cast_sub]
      _ = (m.tdiv n * n : Int) := by rw [← Int.mul_tdiv_self m n, Int.mul_comm]
      _ = truncated (v / w) * w * unit := by
        rw [← mul_div_mul_right v w positive.ne', hv, hw, truncated_div, mul_assoc, hw,
          Int.cast_mul]
  small := by
    have below : (m.tmod n).natAbs < n.natAbs := by
      rw [Int.natAbs_tmod]
      apply Nat.mod_lt _ (Int.natAbs_pos.mpr nonzero)
    rw [← mul_lt_mul_iff_of_pos_right (abs_pos_of_pos positive), ← abs_mul, ← abs_mul, hx, hw,
      ← Int.cast_abs, ← Int.cast_abs, Int.abs_eq_natAbs, Int.abs_eq_natAbs]
    exact_mod_cast below
  sign := by
    by_cases divides : n ∣ m
    · left
      rw [Int.dvd_iff_tmod_eq_zero.mp divides, Int.cast_zero] at hx
      exact (mul_eq_zero.mp hx).resolve_right positive.ne'
    · right
      have apart (s t : SignType) : (s : Int) = t → s = t := by decide +revert
      rw [sign_of_scaled positive hx, sign_of_scaled positive hv, sign_intCast, sign_intCast]
      apply apart
      rw [← Int.sign_eq_sign, ← Int.sign_eq_sign, Int.sign_tmod, if_neg divides]

end

namespace Number

/-- The remainder of two numbers of one sort lies at the remainder of their places. -/
theorem exists_rem
    {a b : Number} {m n : Int} (ha : a.position? = some (.units m))
    (hb : b.position? = some (.units n)) (nonzero : n ≠ 0) (same : a.isWhole = b.isWhole) :
  ∃ r, rem a b = .ok r ∧ r.isWhole = a.isWhole ∧ r.position? = some (.units (m.tmod n))
  := by
  cases a with
  | int i =>
      cases b with
      | float => cases same
      | int j =>
          cases ha
          cases hb
          have divisor : j ≠ 0 := by
            rintro rfl
            apply nonzero (Int.zero_mul _)
          refine ⟨.int (i.tmod j), ?_, rfl, ?_⟩
          · rw [rem, if_neg divisor, intRem_eq_tmod]
          · rw [position?, Binary64.tmod_mul_unitsPerOne]
  | float x =>
      cases b with
      | int => cases same
      | float y =>
          have divisor : y.isZero = false := by
            apply (isZero_of_position? (x := float y) hb).trans (decide_eq_false nonzero)
          refine ⟨.float (x.rem y), ?_, rfl, Binary64.position?_rem ha hb nonzero⟩
          apply rem_of_not_isWhole (by simp [isWhole]) rfl rfl divisor

/-- The remainder of two finite numbers of one sort has a value, and is exact. -/
theorem rem_isRemainder
    {a b : Number} {v w : Rat} (dividend : a.value? = some v) (divisor : b.value? = some w)
    (nonzero : w ≠ 0) (same : a.isWhole = b.isWhole) :
  ∃ r x, rem a b = .ok r ∧ r.isWhole = a.isWhole ∧ r.value? = some x ∧ IsRemainder v w x
  := by
  obtain ⟨m, ha, hv⟩ := value?_eq_some_iff.mp dividend
  obtain ⟨n, hb, hw⟩ := value?_eq_some_iff.mp divisor
  have nonzero' : n ≠ 0 := mt (units_eq_zero_iff hw).mp nonzero
  obtain ⟨r, remainder, whole, place⟩ := exists_rem ha hb nonzero' same
  have scaled : ((m.tmod n : Int) : Rat) / Binary64.unitsPerOne * Binary64.unitsPerOne
      = (m.tmod n : Int) := div_mul_cancel₀ _ cast_unitsPerOne_ne_zero
  refine ⟨r, _, remainder, whole, value?_eq_some_iff.mpr ⟨_, place, scaled⟩, ?_⟩
  apply isRemainder_of_scaled cast_unitsPerOne_pos hv hw scaled nonzero'

end Number

end StyleValue
