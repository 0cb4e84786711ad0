import StyleValue.Binary64.Arithmetic
import StyleValue.Proofs.Binary64.Exact
import StyleValue.Proofs.Number.Equality

/-!
# Sums of floating-point numbers

A sum of floating-point numbers lies at the rounded sum of their places (`Binary64.position?_add`),
as long as it does not leave the finite range.  `Binary64.nearest` rounds a place: it keeps order,
and numbers of the format where they are.  One more or less never leads out of the finite range
(`Binary64.nearestUnits_lt_limit`), as its largest numbers lie much farther apart.
-/

namespace StyleValue.Binary64

/-! ### Rounding on both sides of zero -/

/-- A whole number of units rounded to 53 significant binary digits. -/
def nearest (z : Int) : Int := signed (z < 0) (nearestUnits z.natAbs 1)

theorem nearest_of_neg {z : Int} (h : z < 0) :
  nearest z = -nearestUnits z.natAbs 1
  := by
  rw [nearest, signed, if_pos (decide_eq_true h)]

theorem nearest_of_nonneg {z : Int} (h : 0 ≤ z) :
  nearest z = nearestUnits z.natAbs 1
  := by
  rw [nearest, signed, if_neg (by simpa using h)]

theorem nearest_of_representable {z : Int} (h : Representable z.natAbs) :
  nearest z = z
  := by
  have exact := nearestUnits_of_representable h
  rcases lt_or_ge z 0 with negative | positive
  · rw [nearest_of_neg negative, exact]
    omega
  · rw [nearest_of_nonneg positive, exact]
    omega

theorem nearest_mono {m n : Int} (h : m ≤ n) :
  nearest m ≤ nearest n
  := by
  rcases lt_or_ge n 0 with negative | positive
  · have mono := nearestUnits_mono 1 (show n.natAbs ≤ m.natAbs by omega)
    rw [nearest_of_neg negative, nearest_of_neg (by omega)]
    omega
  · rw [nearest_of_nonneg positive]
    rcases lt_or_ge m 0 with below | above
    · rw [nearest_of_neg below]
      omega
    · have mono := nearestUnits_mono 1 (show m.natAbs ≤ n.natAbs by omega)
      rw [nearest_of_nonneg above]
      omega

/-! ### Positions of sums -/

theorem position?_eq_units_iff {x : Binary64} {m : Int} :
  x.position? = some (.units m) ↔ ∃ s u h, x = .finite s u h ∧ signed s u = m
  := by
  constructor
  · intro place
    rcases x with _ | ⟨_ | _⟩ | ⟨s, u, h⟩ <;> cases place
    exact ⟨s, u, h, rfl, rfl⟩
  · rintro ⟨s, u, h, rfl, rfl⟩
    rfl

theorem representable_of_position? {x : Binary64} {m : Int} (h : x.position? = some (.units m)) :
  Representable m.natAbs
  := by
  obtain ⟨s, u, hu, rfl, rfl⟩ := position?_eq_units_iff.mp h
  rwa [natAbs_signed]

theorem position?_neg {x : Binary64} {m : Int} (h : x.position? = some (.units m)) :
  x.neg.position? = some (.units (-m))
  := by
  obtain ⟨s, u, hu, rfl, rfl⟩ := position?_eq_units_iff.mp h
  cases s <;> simp [neg, position?, signed]

theorem position?_round (negative : Bool) {num : Nat} (h : nearestUnits num 1 < limit) :
  (round negative num 1).position? = some (.units (signed negative (nearestUnits num 1)))
  := by
  rw [round_of_lt negative h]
  rfl

/-- A sum lies at the rounded sum of the positions. -/
theorem position?_add {x y : Binary64} {m n : Int} (hx : x.position? = some (.units m))
    (hy : y.position? = some (.units n)) (inRange : nearestUnits (m + n).natAbs 1 < limit) :
  (x.add y).position? = some (.units (nearest (m + n)))
  := by
  obtain ⟨s, u, hu, rfl, rfl⟩ := position?_eq_units_iff.mp hx
  obtain ⟨t, v, hv, rfl, rfl⟩ := position?_eq_units_iff.mp hy
  rw [add]
  split
  next cancelled =>
    rw [cancelled] at inRange ⊢
    have origin := position?_round (s && t) inRange
    rw [zero]
    apply Eq.trans origin
    cases s && t <;> rfl
  next => rw [position?_round _ inRange, nearest]

/-! ### Sums within the finite range -/

theorem representable_two_pow (i top : Nat) (h : i < top) :
  2 ^ i < 2 ^ top ∧ ∃ k, 2 ^ k ∣ 2 ^ i ∧ 2 ^ i < 2 ^ (53 + k)
  := by
  refine ⟨Nat.pow_lt_pow_right Nat.one_lt_two h, i, Nat.dvd_refl _, ?_⟩
  apply Nat.pow_lt_pow_right Nat.one_lt_two
  omega

theorem representable_unitsPerOne :
  Representable unitsPerOne
  := by
  rw [Representable, limit_eq, unitsPerOne_eq]
  exact representable_two_pow 1074 2098 (by decide)

/-- Numbers of 53 significant digits below a power of two keep their distance from it. -/
theorem add_two_pow_le {u k i : Nat} (inRange : u < 2 ^ (53 + i)) (divides : 2 ^ k ∣ u)
    (digits : u < 2 ^ (53 + k)) :
  u + 2 ^ i ≤ 2 ^ (53 + i)
  := by
  rcases Nat.lt_or_ge k i with small | large
  · have half : u < 2 ^ (52 + i) :=
      Nat.lt_of_lt_of_le digits (Nat.pow_le_pow_right Nat.two_pos (by omega))
    have least : 2 ^ i ≤ 2 ^ (52 + i) := Nat.pow_le_pow_right Nat.two_pos (by omega)
    have double : 2 ^ (53 + i) = 2 * 2 ^ (52 + i) := by rw [← Nat.pow_succ', Nat.succ_add]
    omega
  · obtain ⟨q, rfl⟩ := Nat.dvd_trans (Nat.pow_dvd_pow 2 large) divides
    rw [Nat.add_comm 53, Nat.pow_add] at inRange ⊢
    rw [← Nat.mul_succ]
    apply Nat.mul_le_mul_left
    apply Nat.lt_of_mul_lt_mul_left inRange

/-- Less than half of the distance of the largest numbers does not lead from one of them out of the
finite range. -/
theorem nearestUnits_lt_two_pow {u k num : Nat} (v i top : Nat) (htop : top = 53 + i)
    (hv : v + 1 < i) (inRange : u < 2 ^ top) (divides : 2 ^ k ∣ u) (digits : u < 2 ^ (53 + k))
    (hnum : num ≤ u + 2 ^ v) :
  nearestUnits num 1 < 2 ^ top
  := by
  subst htop
  have room := add_two_pow_le inRange divides digits
  have small : 2 * 2 ^ v < 2 ^ i := by
    rw [← Nat.pow_succ']
    apply Nat.pow_lt_pow_right Nat.one_lt_two hv
  have double : 2 ^ 54 * 2 ^ i = 2 * 2 ^ (53 + i) := by
    rw [← Nat.pow_succ', ← Nat.pow_add]
    congr 1
    omega
  rw [nearestUnits_lt_iff i Nat.one_pos, Nat.one_mul, double]
  omega

/-- One step does not lead out of the finite range. -/
theorem nearestUnits_lt_limit {units num : Nat} (h : Representable units)
    (hnum : num ≤ units + unitsPerOne) :
  nearestUnits num 1 < limit
  := by
  obtain ⟨inRange, k, divides, digits⟩ := h
  rw [limit_eq] at inRange ⊢
  rw [unitsPerOne_eq] at hnum
  exact nearestUnits_lt_two_pow 1074 2045 2098 rfl (by decide) inRange divides digits hnum

end StyleValue.Binary64
