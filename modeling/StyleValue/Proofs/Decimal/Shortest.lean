import StyleValue.Decimal.Shortest
import StyleValue.Proofs.Binary64.Distance
import StyleValue.Proofs.Decimal.Numeral

/-!
# Shortest decimals read back

The number of units that a decimal is rounded to depends on its value only
(`Decimal.units_eq_of_abs_value_eq`), and a whole number is rounded to a whole number.  The shortest
decimal of a number is rounded to that number (`Binary64.units_shortest`).
-/

namespace StyleValue

/-! ### Reading a decimal -/

/-- The number of units that the decimal reads back as, up to its sign. -/
def Decimal.units (d : Decimal) : Nat :=
  Binary64.nearestUnits (d.scaled * Binary64.unitsPerOne) (10 ^ d.places)

namespace Decimal

/-- Decimals of one magnitude read back as the same number of units. -/
theorem units_eq_of_abs_value_eq {d d' : Decimal} (h : |d.value| = |d'.value|) :
  d.units = d'.units
  := by
  have power (k : Nat) : 0 < 10 ^ k := Nat.pow_pos (by decide)
  have scaled : d.scaled * 10 ^ d'.places = d'.scaled * 10 ^ d.places := by
    rw [abs_value, abs_value, digits_mul_zpow, digits_mul_zpow,
      div_eq_div_iff (by positivity) (by positivity)] at h
    exact_mod_cast h
  rw [units, units, ← Binary64.nearestUnits_mul_mul _ _ (power d'.places),
    ← Binary64.nearestUnits_mul_mul (d'.scaled * _) _ (power d.places), Nat.mul_right_comm, scaled,
    Nat.mul_right_comm, Nat.mul_comm (10 ^ d.places)]

/-- A whole number is rounded to a whole number. -/
theorem unitsPerOne_dvd_units_ofInt (n : Int) :
  Binary64.unitsPerOne ∣ (ofInt n).units
  := by
  have whole : (ofInt n).units = Binary64.nearestUnits (n.natAbs * Binary64.unitsPerOne) 1 := by
    rw [units, scaled, places, ofInt, Int.toNat_zero, Int.neg_zero, Int.toNat_zero, Nat.pow_zero,
      Nat.mul_one]
  rw [whole, Binary64.unitsPerOne_eq]
  apply Binary64.two_pow_dvd_nearestUnits
  apply Nat.dvd_mul_left

end Decimal

/-! ### The search for the shortest decimal -/

namespace Binary64

/-- What is found on a grid reads back. -/
theorem readsBack_of_onGrid? {units c : Nat} {e : Int} (h : onGrid? units e = some c) :
  readsBack units c e
  := by
  unfold onGrid? at h
  exact List.find?_some (p := fun c => readsBack units c e) h

/-- On the grid of the unit the number itself is a point. -/
theorem readsBack_exact {units k : Nat} (h : Representable units) (unit : unitsPerOne = 2 ^ k) :
  readsBack units (units * 5 ^ k) (-k)
  := by
  have coarse : (-(k : Int)).toNat = 0 := by omega
  have power : 5 ^ k * 2 ^ k = 10 ^ k := (Nat.mul_pow 5 2 k).symm
  have scaled := nearestUnits_mul_mul units 1 (c := 10 ^ k) (Nat.pow_pos (by decide))
  rw [Nat.one_mul, nearestUnits_of_representable h] at scaled
  rw [readsBack, coarse, Int.neg_neg, Int.toNat_natCast, Nat.pow_zero, Nat.mul_one, unit,
    Nat.mul_assoc, power, scaled]
  apply decide_eq_true rfl

/-- The shortest decimal is found on a grid, or is the number itself on the finest one. -/
theorem shortest_cases (negative : Bool) (units : Nat) :
  (∃ e c, onGrid? units e = some c ∧ shortest negative units = ⟨negative, c, e⟩)
    ∨ shortest negative units = exact negative units
  := by
  unfold shortest
  dsimp only
  generalize coarserExponents _ = exponents
  cases found : exponents.findSome? fun e => (onGrid? units e).map fun c =>
      (⟨negative, c, e⟩ : Decimal) with
  | some d =>
      left
      obtain ⟨e, -, here⟩ := List.exists_of_findSome?_eq_some found
      obtain ⟨c, point, rfl⟩ := Option.map_eq_some_iff.mp here
      exact ⟨e, c, point, rfl⟩
  | none =>
      right
      rfl

theorem negative_shortest (negative : Bool) (units : Nat) :
  (shortest negative units).negative = negative
  := by
  rcases shortest_cases negative units with ⟨e, c, -, found⟩ | itself
  · rw [found]
  · rw [itself, exact]

/-- The shortest decimal of a number reads back as that number. -/
theorem units_shortest (negative : Bool) {units : Nat} (h : Representable units) :
  (shortest negative units).units = units
  := by
  rcases shortest_cases negative units with ⟨e, c, point, found⟩ | itself
  · rw [found]
    apply of_decide_eq_true (readsBack_of_onGrid? point)
  · rw [itself]
    apply of_decide_eq_true (readsBack_exact (k := 1074) h unitsPerOne_eq)

/-- Only zero has a shortest decimal without digits. -/
theorem digits_shortest_ne_zero (negative : Bool) {units : Nat} (h : Representable units)
    (nonzero : units ≠ 0) :
  (shortest negative units).digits ≠ 0
  := by
  intro zero
  apply nonzero
  rw [← units_shortest negative h, Decimal.units, Decimal.scaled, zero, Nat.zero_mul, Nat.zero_mul,
    nearestUnits_zero]

end Binary64

end StyleValue
