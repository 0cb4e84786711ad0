import StyleValue.Power

/-!
# Rounding of quotients

A quotient of two natural numbers is rounded to a neighbouring whole number.  The two rounding
rules differ only in where an exact half goes: `Rounding.halfEven` sends it to the even neighbour,
`Rounding.halfUp` sends it to the larger one.
-/

namespace StyleValue.Rounding

/-- The whole number nearest to `n / d`; an exact half goes to the even neighbour. -/
def halfEven (n d : Nat) : Nat :=
  if 2 * (n % d) < d ∨ 2 * (n % d) = d ∧ n / d % 2 = 0 then n / d else n / d + 1

/-- The whole number nearest to `n / d`; an exact half goes to the larger neighbour. -/
def halfUp (n d : Nat) : Nat :=
  (2 * n + d) / (2 * d)

theorem halfEven_le (n d : Nat) :
  halfEven n d ≤ n / d + 1
  := by
  unfold halfEven
  split <;> omega

theorem le_halfEven (n d : Nat) :
  n / d ≤ halfEven n d
  := by
  unfold halfEven
  split <;> omega

/-- A whole number is its own rounding. -/
theorem halfEven_mul (q d : Nat) (h : 0 < d) :
  halfEven (q * d) d = q
  := by
  simp [halfEven, Nat.mul_div_cancel q h, h]

end StyleValue.Rounding
