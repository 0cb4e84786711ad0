import StyleValue.Proofs.Binary64.Remainder
import StyleValue.Proofs.Binary64.Zeros

/-!
# Whole numbers in floating point

Whole numbers up to 2⁵³ are numbers of the format, and sums, differences and products of them are
exact as long as they do not leave this range.  Remainders always are, and a quotient is that of the
whole numbers themselves, rounded once.
-/

namespace StyleValue

/-! ### Scaling -/

/-- Rounding depends on the value of a quotient only. -/
theorem Rounding.halfEven_mul_mul (n d : Nat) {c : Nat} (h : 0 < c) :
  halfEven (n * c) (d * c) = halfEven n d
  := by
  have below : 2 * (n % d * c) < d * c ↔ 2 * (n % d) < d := by
    rw [← Nat.mul_assoc, Nat.mul_lt_mul_right h]
  have middle : 2 * (n % d * c) = d * c ↔ 2 * (n % d) = d := by
    rw [← Nat.mul_assoc, Nat.mul_left_inj (Nat.ne_of_gt h)]
  simp only [halfEven, Nat.mul_mod_mul_right, Nat.mul_div_mul_right _ _ h, below, middle]

namespace Binary64

theorem nearestUnits_mul_mul (num den : Nat) {c : Nat} (h : 0 < c) :
  nearestUnits (num * c) (den * c) = nearestUnits num den
  := by
  rw [nearestUnits, Nat.mul_div_mul_right _ _ h, Nat.mul_right_comm,
    Rounding.halfEven_mul_mul _ _ h, nearestUnits]

theorem round_mul_mul (negative : Bool) (num den : Nat) {c : Nat} (h : 0 < c) :
  round negative (num * c) (den * c) = round negative num den
  := by
  simp only [round, nearestUnits_mul_mul _ _ h]

/-! ### Signs -/

theorem signed_natAbs (n : Int) :
  signed (n < 0) n.natAbs = n
  := by
  rcases lt_or_ge n 0 with negative | positive
  · rw [signed, if_pos (decide_eq_true negative)]
    omega
  · rw [signed, if_neg (by simpa using positive)]
    omega

theorem signed_bne_mul (s t : Bool) (u v : Nat) :
  signed (s != t) (u * v) = signed s u * signed t v
  := by
  cases s <;> cases t <;> simp [signed]

/-- Only zero is written with either sign. -/
theorem eq_of_signed_natAbs {negative : Bool} {n : Int} (h : signed negative n.natAbs = n)
    (nonzero : n ≠ 0) :
  negative = decide (n < 0)
  := by
  cases negative
  · rw [signed, if_neg Bool.false_ne_true] at h
    rw [eq_comm, decide_eq_false_iff_not]
    omega
  · rw [signed, if_pos rfl] at h
    rw [eq_comm, decide_eq_true_eq]
    omega

/-! ### Whole numbers of the format -/

theorem representable_mul_two_pow (n i top : Nat) (h : n ≤ 2 ^ 53) (htop : 53 + i < top) :
  n * 2 ^ i < 2 ^ top ∧ ∃ k, 2 ^ k ∣ n * 2 ^ i ∧ n * 2 ^ i < 2 ^ (53 + k)
  := by
  have most : n * 2 ^ i ≤ 2 ^ (53 + i) := by
    rw [Nat.pow_add]
    apply Nat.mul_le_mul_right _ h
  constructor
  · apply Nat.lt_of_le_of_lt most
    apply Nat.pow_lt_pow_right Nat.one_lt_two htop
  · rcases Nat.lt_or_eq_of_le h with small | rfl
    · use i, Nat.dvd_mul_left _ _
      rw [Nat.pow_add]
      exact Nat.mul_lt_mul_of_pos_right small (Nat.two_pow_pos i)
    · use i + 1
      rw [← Nat.pow_add]
      constructor
      · apply Nat.pow_dvd_pow 2
        omega
      · apply Nat.pow_lt_pow_right Nat.one_lt_two
        omega

theorem representable_whole {n : Nat} (h : n ≤ 2 ^ 53) :
  Representable (n * unitsPerOne)
  := by
  rw [Representable, limit_eq, unitsPerOne_eq]
  exact representable_mul_two_pow n 1074 2098 h (by decide)

/-- A whole number up to 2⁵³ is its own rounding. -/
theorem position?_round_whole (negative : Bool) {n : Nat} (h : n ≤ 2 ^ 53) :
  (round negative (n * unitsPerOne) 1).position?
    = some (.units (signed negative n * unitsPerOne))
  := by
  have exact := nearestUnits_of_representable (representable_whole h)
  have inRange : nearestUnits (n * unitsPerOne) 1 < limit := by
    rw [exact]
    apply (representable_whole h).1
  rw [position?_round negative inRange, exact, signed_mul]

theorem position?_ofQuotient_whole (negative : Bool) {n : Nat} (h : n ≤ 2 ^ 53) :
  (ofQuotient negative n 1).position? = some (.units (signed negative n * unitsPerOne))
  := by
  rw [ofQuotient, Nat.mul_comm, position?_round_whole negative h]

/-- A whole number up to 2⁵³ is converted exactly. -/
theorem exists_ofInt? {n : Int} (h : n.natAbs ≤ 2 ^ 53) :
  ∃ x, ofInt? n = some x ∧ x.position? = some (.units (n * unitsPerOne))
  := by
  have place := position?_round_whole (n < 0) h
  rw [signed_natAbs] at place
  rw [ofInt?, ofQuotient, Nat.mul_comm]
  cases converted : round (n < 0) (n.natAbs * unitsPerOne) 1 with
  | infinity negative =>
      rw [converted] at place
      cases negative <;> cases place
  | nan =>
      rw [converted] at place
      cases place
  | finite s u hu =>
      rw [converted] at place
      exact ⟨_, rfl, place⟩

/-- Whole numbers up to 2⁵³ lie far inside of the finite range. -/
theorem lt_overflowBound {n : Nat} (h : n ≤ 2 ^ 53) :
  n < overflowBound
  := by
  rw [overflowBound]
  calc n
    _ < 2 ^ 54 - 1 := by omega
    _ ≤ (2 ^ 54 - 1) * 2 ^ 970 := Nat.le_mul_of_pos_right _ (Nat.two_pow_pos 970)

/-! ### Operations on whole numbers -/

section

variable {x y : Binary64} {m n : Int}

theorem eq_finite_of_whole (hx : x.position? = some (.units (m * unitsPerOne))) :
  ∃ s h, x = .finite s (m.natAbs * unitsPerOne) h ∧ signed s m.natAbs = m
  := by
  obtain ⟨s, u, hu, rfl, value⟩ := position?_eq_units_iff.mp hx
  obtain rfl : u = m.natAbs * unitsPerOne := by
    rw [← natAbs_signed s u, value, Int.natAbs_mul, Int.natAbs_natCast]
  use s, hu, rfl
  apply Int.eq_of_mul_eq_mul_right (Int.natCast_ne_zero.mpr (Nat.ne_of_gt unitsPerOne_pos))
  rw [signed_mul, value]

variable (hx : x.position? = some (.units (m * unitsPerOne)))
  (hy : y.position? = some (.units (n * unitsPerOne)))

include hx hy

theorem position?_add_whole (h : (m + n).natAbs ≤ 2 ^ 53) :
  (x.add y).position? = some (.units ((m + n) * unitsPerOne))
  := by
  have sum : Representable (m * unitsPerOne + n * unitsPerOne).natAbs := by
    rw [← Int.add_mul, Int.natAbs_mul, Int.natAbs_natCast]
    apply representable_whole h
  have inRange : nearestUnits (m * unitsPerOne + n * unitsPerOne).natAbs 1 < limit := by
    rw [nearestUnits_of_representable sum]
    apply sum.1
  rw [position?_add hx hy inRange, nearest_of_representable sum, ← Int.add_mul]

theorem position?_sub_whole (h : (m - n).natAbs ≤ 2 ^ 53) :
  (x.sub y).position? = some (.units ((m - n) * unitsPerOne))
  := by
  have opposite := position?_neg hy
  rw [← Int.neg_mul] at opposite
  rw [Int.sub_eq_add_neg] at h ⊢
  apply position?_add_whole hx opposite h

theorem position?_mul_whole (h : (m * n).natAbs ≤ 2 ^ 53) :
  (x.mul y).position? = some (.units (m * n * unitsPerOne))
  := by
  obtain ⟨s, hs, rfl, value⟩ := eq_finite_of_whole hx
  obtain ⟨t, ht, rfl, value'⟩ := eq_finite_of_whole hy
  have product : m.natAbs * unitsPerOne * (n.natAbs * unitsPerOne)
      = (m * n).natAbs * unitsPerOne * unitsPerOne := by
    rw [Int.natAbs_mul, Nat.mul_mul_mul_comm, ← Nat.mul_assoc]
  have sign : signed (s != t) (m * n).natAbs = m * n := by
    rw [Int.natAbs_mul, signed_bne_mul, value, value']
  have scaled := round_mul_mul (s != t) ((m * n).natAbs * unitsPerOne) 1 unitsPerOne_pos
  rw [Nat.one_mul] at scaled
  rw [mul, product, scaled, position?_round_whole _ h, sign]

/-- The quotient is that of the whole numbers. -/
theorem position?_div_whole (nonzero : n ≠ 0) :
  (x.div y).position? = (ofQuotient ((m < 0) != (n < 0)) m.natAbs n.natAbs).position?
  := by
  obtain ⟨s, hs, rfl, value⟩ := eq_finite_of_whole hx
  obtain ⟨t, ht, rfl, value'⟩ := eq_finite_of_whole hy
  have divisor : n.natAbs * unitsPerOne ≠ 0 :=
    Nat.mul_ne_zero (Int.natAbs_ne_zero.mpr nonzero) (Nat.ne_of_gt unitsPerOne_pos)
  rw [div, if_neg divisor, ofQuotient, ← Nat.mul_assoc, round_mul_mul _ _ _ unitsPerOne_pos]
  rcases eq_or_ne m 0 with rfl | dividend
  · rw [Int.natAbs_zero, Nat.mul_zero, position?_round_zero, ofQuotient, Nat.mul_zero,
      position?_round_zero]
  · rw [eq_of_signed_natAbs value dividend, eq_of_signed_natAbs value' nonzero, ofQuotient]

theorem position?_rem_whole (nonzero : n ≠ 0) :
  (x.rem y).position? = some (.units (m.tmod n * unitsPerOne))
  := by
  have divisor : n * unitsPerOne ≠ 0 :=
    Int.mul_ne_zero nonzero (Int.natCast_ne_zero.mpr (Nat.ne_of_gt unitsPerOne_pos))
  rw [position?_rem hx hy divisor, tmod_mul_unitsPerOne]

end

end Binary64

end StyleValue
