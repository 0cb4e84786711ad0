import Mathlib.Tactic.Linarith
import StyleValue.Binary64.Basic

/-!
# Rounding and the finite range

A quotient is rounded to 53 significant binary digits.  `nearestUnits_lt_iff` says when the result
stays below a power of two: when the quotient lies below the middle between the power and the number
before it.  So `round` leaves the finite range from `overflowBound` on, the middle between the
largest finite number and 2¹⁰²⁴.
-/

namespace StyleValue

/-- Rounding stays below an even number as long as the quotient is below the half before it.  The
half itself goes up, to the even number. -/
theorem Rounding.halfEven_lt_iff {n d c : Nat} (hd : 0 < d) :
  halfEven n d < 2 * c ↔ 2 * n + d < 4 * c * d
  := by
  have division := Nat.div_add_mod n d
  have small := Nat.mod_lt n hd
  rcases Nat.lt_trichotomy (n / d + 1) (2 * c) with below | last | above
  · have rounded := halfEven_le n d
    have scaled : d * (n / d + 2) ≤ d * (2 * c) := Nat.mul_le_mul_left d below
    constructor
    · intro
      linarith
    · intro
      omega
  · -- the quotient is odd here, so that its half goes up
    have odd : n / d % 2 ≠ 0 := by omega
    have scaled : d * (n / d + 1) = d * (2 * c) := by rw [last]
    unfold halfEven
    constructor
    · intro h
      split at h
      · have lower : 2 * (n % d) < d := by omega
        linarith
      · omega
    · intro h
      have lower : 2 * (n % d) < d := by linarith
      rw [if_pos (Or.inl lower)]
      omega
  · have rounded := le_halfEven n d
    have scaled : d * (2 * c) ≤ d * (n / d) := Nat.mul_le_mul_left d (by omega)
    constructor
    · intro
      omega
    · intro
      linarith [Nat.mul_div_le n d]

namespace Binary64

theorem lt_two_pow_lastPlace (q : Nat) :
  q < 2 ^ (53 + lastPlace q)
  := by
  apply Nat.lt_of_lt_of_le Nat.lt_log2_self
  apply Nat.pow_le_pow_right (by decide)
  unfold lastPlace
  omega

theorem two_pow_lastPlace_le {q : Nat} (h : lastPlace q ≠ 0) :
  2 ^ (52 + lastPlace q) ≤ q
  := by
  have place : 52 + lastPlace q = q.log2 := by
    unfold lastPlace at *
    omega
  rw [place]
  apply Nat.log2_self_le
  rintro rfl
  apply h
  rfl

theorem nearestUnits_le_two_pow (num den : Nat) :
  nearestUnits num den ≤ 2 ^ (53 + lastPlace (num / den))
  := by
  have near := Rounding.halfEven_le num (den * 2 ^ lastPlace (num / den))
  have digits := div_lastPlace_lt num den
  rw [nearestUnits, Nat.pow_add]
  apply Nat.mul_le_mul_right
  omega

theorem two_pow_le_nearestUnits {num den : Nat} (h : lastPlace (num / den) ≠ 0) :
  2 ^ (52 + lastPlace (num / den)) ≤ nearestUnits num den
  := by
  have far := Rounding.le_halfEven num (den * 2 ^ lastPlace (num / den))
  rw [← Nat.div_div_eq_div_mul] at far
  rw [nearestUnits, Nat.pow_add]
  apply Nat.mul_le_mul_right
  apply Nat.le_trans _ far
  rw [Nat.le_div_iff_mul_le (Nat.two_pow_pos _), ← Nat.pow_add]
  apply two_pow_lastPlace_le h

/-- Rounding stays below a power of two of at least 53 digits as long as the quotient lies below the
middle between the power and the number before it. -/
theorem nearestUnits_lt_iff {num den : Nat} (k : Nat) (hden : 0 < den) :
  nearestUnits num den < 2 ^ (53 + k) ↔ 2 * num + den * 2 ^ k < 2 ^ 54 * (den * 2 ^ k)
  := by
  have positive : 0 < den * 2 ^ k := Nat.mul_pos hden (Nat.two_pow_pos k)
  rcases Nat.lt_trichotomy (lastPlace (num / den)) k with finer | same | coarser
  · have rounded : nearestUnits num den < 2 ^ (53 + k) :=
      Nat.lt_of_le_of_lt (nearestUnits_le_two_pow num den)
        (Nat.pow_lt_pow_right (by decide) (by omega))
    have quotient : num / den < 2 ^ (52 + k) :=
      Nat.lt_of_lt_of_le (lt_two_pow_lastPlace _) (Nat.pow_le_pow_right (by decide) (by omega))
    rw [Nat.div_lt_iff_lt_mul hden, Nat.pow_add, Nat.mul_assoc, Nat.mul_comm _ den] at quotient
    constructor
    · intro
      omega
    · intro
      apply rounded
  · have parity := Rounding.halfEven_lt_iff (n := num) (c := 2 ^ 52) positive
    rw [nearestUnits, same, Nat.pow_add, Nat.mul_lt_mul_right (Nat.two_pow_pos k)]
    apply Iff.trans parity
    omega
  · have place : lastPlace (num / den) ≠ 0 := by omega
    have rounded : 2 ^ (53 + k) ≤ nearestUnits num den :=
      Nat.le_trans (Nat.pow_le_pow_right (by decide) (by omega)) (two_pow_le_nearestUnits place)
    have quotient : 2 ^ (53 + k) ≤ num / den :=
      Nat.le_trans (Nat.pow_le_pow_right (by decide) (by omega)) (two_pow_lastPlace_le place)
    rw [Nat.le_div_iff_mul_le hden, Nat.pow_add, Nat.mul_assoc, Nat.mul_comm _ den] at quotient
    constructor
    · intro
      omega
    · intro
      omega

/-! ### The end of the finite range -/

/-- The least whole number that is rounded out of the finite range: 2¹⁰²⁴ less half of the distance
to the number before it. -/
def overflowBound : Nat := (2 ^ 54 - 1) * 2 ^ 970

attribute [irreducible] overflowBound

/-- The same for a quotient of numbers with `j` binary places. -/
theorem nearestUnits_mul_lt_iff
    (num : Nat) {den : Nat} (i j top : Nat) (hden : 0 < den) (htop : top = 53 + (i + 1 + j)) :
  nearestUnits (2 ^ j * num) den < 2 ^ top ↔ num < (2 ^ 54 - 1) * 2 ^ i * den
  := by
  have places : den * 2 ^ (i + 1 + j) = den * 2 ^ i * 2 * 2 ^ j := by
    rw [Nat.pow_add, Nat.pow_succ, Nat.mul_assoc, Nat.mul_assoc, Nat.mul_assoc]
  rw [htop, nearestUnits_lt_iff _ hden, places, Nat.mul_comm (2 ^ j), ← Nat.mul_assoc,
    ← Nat.mul_assoc, ← Nat.add_mul, Nat.mul_lt_mul_right (Nat.two_pow_pos j), Nat.mul_assoc _ _ den,
    Nat.mul_comm _ den]
  generalize den * 2 ^ i = middle
  omega

theorem nearestUnits_lt_limit_iff {num den : Nat} (hden : 0 < den) :
  nearestUnits (unitsPerOne * num) den < limit ↔ num < overflowBound * den
  := by
  rw [limit_eq, unitsPerOne_eq, overflowBound]
  exact nearestUnits_mul_lt_iff num 970 1074 2098 hden rfl

/-- A quotient is rounded to an infinity from the bound on. -/
theorem ofQuotient_eq {negative : Bool} {num den : Nat} (hden : 0 < den) :
  (overflowBound * den ≤ num ∧ ofQuotient negative num den = .infinity negative)
    ∨ (num < overflowBound * den ∧ ∃ h,
        ofQuotient negative num den = .finite negative (nearestUnits (unitsPerOne * num) den) h)
  := by
  rcases Nat.lt_or_ge num (overflowBound * den) with below | above
  · have inRange := (nearestUnits_lt_limit_iff hden).mpr below
    right
    use below, ⟨inRange, exists_place_nearestUnits _ _⟩
    rw [ofQuotient, round_of_lt negative inRange]
  · left
    use above
    apply round_of_le
    rw [← Nat.not_lt, nearestUnits_lt_limit_iff hden]
    omega

end Binary64

end StyleValue
