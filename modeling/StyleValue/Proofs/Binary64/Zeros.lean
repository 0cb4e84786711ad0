import StyleValue.Binary64.Arithmetic
import StyleValue.Proofs.Number.Equality

/-!
# Zeros of both signs

Two floating-point numbers at the same place are the same, or both are zeros
(`Binary64.eq_or_isZero_of_position?`).  Arithmetic does not tell the zeros apart: the place of a
result depends on the places of the operands only.  The exception is a quotient by zero, which is
never asked for.
-/

namespace StyleValue.Binary64

theorem isZero_iff {x : Binary64} :
  x.isZero ↔ ∃ negative h, x = .finite negative 0 h
  := by
  rcases x with _ | _ | ⟨negative, units, h⟩
  · simp [isZero]
  · simp [isZero]
  · rw [isZero_finite, decide_eq_true_eq]
    constructor
    · rintro rfl
      exact ⟨negative, h, rfl⟩
    · rintro ⟨_, _, same⟩
      cases same
      rfl

/-- Only zeros have two forms at one place. -/
theorem eq_or_isZero_of_position? {x y : Binary64} (h : x.position? = y.position?) :
  x = y ∨ x.isZero ∧ y.isZero
  := by
  rcases x with _ | ⟨_ | _⟩ | ⟨s, u, hu⟩ <;> rcases y with _ | ⟨_ | _⟩ | ⟨t, v, hv⟩ <;> try cases h
  · exact Or.inl rfl
  · exact Or.inl rfl
  · exact Or.inl rfl
  · rw [position?, position?, Option.some.injEq, Position.units.injEq] at h
    obtain ⟨rfl, rfl | rfl⟩ := eq_of_signed_eq h
    · exact Or.inr ⟨rfl, rfl⟩
    · exact Or.inl rfl

theorem signed_zero (negative : Bool) :
  signed negative 0 = 0
  := by
  cases negative <;> rfl

theorem nearestUnits_zero (den : Nat) :
  nearestUnits 0 den = 0
  := by
  have half (d : Nat) : Rounding.halfEven 0 d = 0 := by
    rcases Nat.eq_zero_or_pos d with rfl | positive
    · rfl
    · simp [Rounding.halfEven, positive]
  rw [nearestUnits, half, Nat.zero_mul]

/-- A zero lies at the origin, whatever its sign. -/
theorem position?_round_zero (negative : Bool) (den : Nat) :
  (round negative 0 den).position? = some (.units 0)
  := by
  have inRange : nearestUnits 0 den < limit := by
    rw [nearestUnits_zero, limit_eq]
    apply Nat.two_pow_pos
  rw [round_of_lt negative inRange]
  simp only [position?, nearestUnits_zero, signed_zero]

/-- Zeros of different signs as the left operand. -/
theorem position?_add_of_isZero {x x' : Binary64} (hx : x.isZero) (hx' : x'.isZero) (y : Binary64) :
  (x.add y).position? = (x'.add y).position?
  := by
  obtain ⟨s, h, rfl⟩ := isZero_iff.mp hx
  obtain ⟨s', h', rfl⟩ := isZero_iff.mp hx'
  rcases y with _ | _ | ⟨t, v, hv⟩
  · rfl
  · rfl
  · simp only [add, signed_zero, Int.zero_add]
    split
    · rw [zero, zero, position?_round_zero, position?_round_zero]
    · rfl

theorem position?_mul_of_isZero {x x' : Binary64} (hx : x.isZero) (hx' : x'.isZero) (y : Binary64) :
  (x.mul y).position? = (x'.mul y).position?
  := by
  obtain ⟨s, h, rfl⟩ := isZero_iff.mp hx
  obtain ⟨s', h', rfl⟩ := isZero_iff.mp hx'
  rcases y with _ | _ | ⟨t, v, hv⟩
  · rfl
  · rfl
  · simp only [mul, Nat.zero_mul, position?_round_zero]

theorem position?_div_of_isZero {x x' y : Binary64} (hx : x.isZero) (hx' : x'.isZero)
    (hy : y.isZero = false) :
  (x.div y).position? = (x'.div y).position?
  := by
  obtain ⟨s, h, rfl⟩ := isZero_iff.mp hx
  obtain ⟨s', h', rfl⟩ := isZero_iff.mp hx'
  rcases y with _ | _ | ⟨t, v, hv⟩
  · rfl
  · simp only [div, zero, position?_round_zero]
  · rw [isZero_finite, decide_eq_false_iff_not] at hy
    simp only [div, if_neg hy, ofQuotient, Nat.mul_zero, position?_round_zero]

theorem position?_rem_of_isZero {x x' : Binary64} (hx : x.isZero) (hx' : x'.isZero) (y : Binary64) :
  (x.rem y).position? = (x'.rem y).position?
  := by
  obtain ⟨s, h, rfl⟩ := isZero_iff.mp hx
  obtain ⟨s', h', rfl⟩ := isZero_iff.mp hx'
  rcases y with _ | _ | ⟨t, v, hv⟩
  · rfl
  · simp only [rem, position?, signed_zero]
  · simp only [rem]
    split
    · rfl
    · simp only [Nat.zero_mod, position?_round_zero]

theorem add_comm (x y : Binary64) :
  x.add y = y.add x
  := by
  rcases x with _ | s | ⟨s, u, hu⟩ <;> rcases y with _ | t | ⟨t, v, hv⟩ <;> try rfl
  · simp only [add]
    by_cases same : s = t
    · rw [same]
    · rw [if_neg same, if_neg (Ne.symm same)]
  · simp only [add, Int.add_comm (signed s u), Bool.and_comm s]

theorem mul_comm (x y : Binary64) :
  x.mul y = y.mul x
  := by
  rcases x with _ | s | ⟨s, u, hu⟩ <;> rcases y with _ | t | ⟨t, v, hv⟩ <;> try rfl
  · rw [mul, mul, bne_comm]
  · rw [mul, mul, bne_comm]
  · rw [mul, mul, bne_comm]
  · rw [mul, mul, bne_comm, Nat.mul_comm]

/-! ### Operations at places -/

/-- An operation in which the order of the operands does not matter depends on their places only if
it takes zeros of both signs on the left to one place. -/
theorem position?_congr_of_comm
    {op : Binary64 → Binary64 → Binary64} (comm : ∀ x y, op x y = op y x)
    (zeros : ∀ {x x' : Binary64}, x.isZero → x'.isZero →
      ∀ y, (op x y).position? = (op x' y).position?)
    {x x' y y' : Binary64} (hx : x.position? = x'.position?) (hy : y.position? = y'.position?) :
  (op x y).position? = (op x' y').position?
  := by
  have left {x x' : Binary64} (h : x.position? = x'.position?) (y : Binary64) :
      (op x y).position? = (op x' y).position? := by
    rcases eq_or_isZero_of_position? h with rfl | ⟨zero, zero'⟩
    · rfl
    · apply zeros zero zero'
  calc (op x y).position?
    _ = (op x' y).position? := left hx y
    _ = (op y x').position? := by rw [comm]
    _ = (op y' x').position? := left hy x'
    _ = (op x' y').position? := by rw [comm]

section

variable {x x' y y' : Binary64} (hx : x.position? = x'.position?) (hy : y.position? = y'.position?)

include hx hy

/-- A sum lies at a place that depends on the places of the operands only. -/
theorem position?_add_congr :
  (x.add y).position? = (x'.add y').position?
  := position?_congr_of_comm add_comm position?_add_of_isZero hx hy

theorem position?_mul_congr :
  (x.mul y).position? = (x'.mul y').position?
  := position?_congr_of_comm mul_comm position?_mul_of_isZero hx hy

/-- So does a quotient, unless the divisor is zero. -/
theorem position?_div_congr (nonzero : y.isZero = false) :
  (x.div y).position? = (x'.div y').position?
  := by
  rcases eq_or_isZero_of_position? hy with rfl | ⟨zero, -⟩
  · rcases eq_or_isZero_of_position? hx with rfl | ⟨zero, zero'⟩
    · rfl
    · apply position?_div_of_isZero zero zero' nonzero
  · rw [nonzero] at zero
    cases zero

theorem position?_rem_congr (nonzero : y.isZero = false) :
  (x.rem y).position? = (x'.rem y').position?
  := by
  rcases eq_or_isZero_of_position? hy with rfl | ⟨zero, -⟩
  · rcases eq_or_isZero_of_position? hx with rfl | ⟨zero, zero'⟩
    · rfl
    · apply position?_rem_of_isZero zero zero'
  · rw [nonzero] at zero
    cases zero

end

theorem position?_neg_congr {x x' : Binary64} (hx : x.position? = x'.position?) :
  x.neg.position? = x'.neg.position?
  := by
  rcases eq_or_isZero_of_position? hx with rfl | ⟨zero, zero'⟩
  · rfl
  · obtain ⟨s, h, rfl⟩ := isZero_iff.mp zero
    obtain ⟨s', h', rfl⟩ := isZero_iff.mp zero'
    simp only [neg, position?, signed_zero]

theorem position?_sub_congr {x x' y y' : Binary64} (hx : x.position? = x'.position?)
    (hy : y.position? = y'.position?) :
  (x.sub y).position? = (x'.sub y').position?
  := position?_add_congr hx (position?_neg_congr hy)

end StyleValue.Binary64
