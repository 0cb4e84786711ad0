import StyleValue.Proofs.Binary64.Sum

/-!
# Remainders of floating-point numbers

The remainder of two numbers of the format has the binary places that both of them have, and no more
digits than either, so it is a number of the format itself (`Binary64.representable_mod`).  The
remainder of floating-point numbers therefore is exact, however far apart they lie
(`Binary64.position?_rem`).
-/

namespace StyleValue.Binary64

/-- A remainder has the sign of the dividend. -/
theorem signed_tmod (negative : Bool) (u : Nat) (n : Int) :
  (signed negative u).tmod n = signed negative (u % n.natAbs)
  := by
  have positive : (u : Int).tmod n = (u % n.natAbs : Nat) := by
    rcases Int.natAbs_eq n with h | h
    · rw [h, Int.natAbs_natCast, Int.ofNat_tmod]
    · rw [h, Int.tmod_neg, Int.natAbs_neg, Int.natAbs_natCast, Int.ofNat_tmod]
  cases negative
  · exact positive
  · simp only [signed, if_true, Int.neg_tmod, positive]

/-- The remainder of whole numbers, in units. -/
theorem tmod_mul_unitsPerOne (m n : Int) :
  (m * unitsPerOne).tmod (n * unitsPerOne) = m.tmod n * unitsPerOne
  := by
  have unit : (0 : Int) < unitsPerOne := Int.natCast_pos.mpr unitsPerOne_pos
  rw [Int.mul_comm m, Int.mul_comm n, Int.mul_tmod_mul_of_pos _ _ unit, Int.mul_comm]

/-- The remainder of two numbers of the format is a number of the format. -/
theorem representable_mod {u v : Nat} (hu : Representable u) (hv : Representable v) (h : v ≠ 0) :
  Representable (u % v)
  := by
  obtain ⟨inRange, k, divides, digits⟩ := hu
  obtain ⟨-, j, divides', digits'⟩ := hv
  have small : u % v ≤ u := Nat.mod_le u v
  use Nat.lt_of_le_of_lt small inRange
  -- both numbers are multiples of the lesser of the two powers, and so is the remainder
  rcases Nat.le_total k j with coarser | finer
  · have common : 2 ^ k ∣ v := Nat.dvd_trans (Nat.pow_dvd_pow 2 coarser) divides'
    use k, (Nat.dvd_mod_iff common).mpr divides
    apply Nat.lt_of_le_of_lt small digits
  · have common : 2 ^ j ∣ u := Nat.dvd_trans (Nat.pow_dvd_pow 2 finer) divides
    use j, (Nat.dvd_mod_iff divides').mpr common
    apply Nat.lt_trans (Nat.mod_lt u (Nat.pos_of_ne_zero h)) digits'

/-- A remainder lies at the remainder of the places. -/
theorem position?_rem {x y : Binary64} {m n : Int} (hx : x.position? = some (.units m))
    (hy : y.position? = some (.units n)) (nonzero : n ≠ 0) :
  (x.rem y).position? = some (.units (m.tmod n))
  := by
  obtain ⟨s, u, hu, rfl, rfl⟩ := position?_eq_units_iff.mp hx
  obtain ⟨t, v, hv, rfl, rfl⟩ := position?_eq_units_iff.mp hy
  have divisor : v ≠ 0 := by
    rwa [← Int.natAbs_ne_zero, natAbs_signed] at nonzero
  have remainder := representable_mod hu hv divisor
  have exact := nearestUnits_of_representable remainder
  have inRange : nearestUnits (u % v) 1 < limit := by
    rw [exact]
    apply remainder.1
  rw [rem, if_neg divisor, position?_round s inRange, exact, signed_tmod, natAbs_signed]

end StyleValue.Binary64
