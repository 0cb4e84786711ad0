import StyleValue.Proofs.Binary64.Rounding

/-!
# Rounding keeps order and representable numbers

Rounding never turns two quotients round (`Binary64.nearestUnits_mono`), and a multiple of the unit
that is a number of the format is its own rounding (`Binary64.nearestUnits_of_representable`).
Together: a quotient on one side of a number of the format is rounded to that side of it.
-/

namespace StyleValue

theorem Rounding.halfEven_mono {m n d : Nat} (h : m ≤ n) :
  halfEven m d ≤ halfEven n d
  := by
  rcases Nat.lt_or_ge (m / d) (n / d) with apart | near
  · have below := halfEven_le m d
    have above := le_halfEven n d
    omega
  · have same : m / d = n / d := Nat.le_antisymm (Nat.div_le_div_right h) near
    have divided := Nat.div_add_mod m d
    have divided' := Nat.div_add_mod n d
    rw [same] at divided
    have remainder : m % d ≤ n % d := by omega
    unfold halfEven
    rw [same]
    split <;> split <;> omega

namespace Binary64

theorem lastPlace_mono {m n : Nat} (h : m ≤ n) :
  lastPlace m ≤ lastPlace n
  := by
  rcases Nat.eq_zero_or_pos m with rfl | positive
  · apply Nat.zero_le
  · have least : 2 ^ m.log2 ≤ m := Nat.log2_self_le (Nat.ne_of_gt positive)
    have digits : m.log2 ≤ n.log2 := (Nat.le_log2 (by omega)).mpr (Nat.le_trans least h)
    unfold lastPlace
    omega

theorem nearestUnits_mono {m n : Nat} (den : Nat) (h : m ≤ n) :
  nearestUnits m den ≤ nearestUnits n den
  := by
  rcases Nat.lt_or_ge (lastPlace (m / den)) (lastPlace (n / den)) with apart | near
  · have place : lastPlace (n / den) ≠ 0 := by omega
    calc nearestUnits m den
      _ ≤ 2 ^ (53 + lastPlace (m / den)) := nearestUnits_le_two_pow m den
      _ ≤ 2 ^ (52 + lastPlace (n / den)) := Nat.pow_le_pow_right (by decide) (by omega)
      _ ≤ nearestUnits n den := two_pow_le_nearestUnits place
  · have same : lastPlace (m / den) = lastPlace (n / den) :=
      Nat.le_antisymm (lastPlace_mono (Nat.div_le_div_right h)) near
    rw [nearestUnits, nearestUnits, same]
    apply Nat.mul_le_mul_right
    apply Rounding.halfEven_mono h

theorem lastPlace_le_of_lt {q k : Nat} (h : q < 2 ^ (53 + k)) :
  lastPlace q ≤ k
  := by
  rcases Nat.eq_zero_or_pos q with rfl | positive
  · apply Nat.zero_le
  · have digits := (Nat.log2_lt (Nat.ne_of_gt positive)).mpr h
    unfold lastPlace
    omega

/-- A number of the format is its own rounding. -/
theorem nearestUnits_of_representable {units : Nat} (h : Representable units) :
  nearestUnits units 1 = units
  := by
  obtain ⟨-, k, divides, digits⟩ := h
  have place : lastPlace (units / 1) ≤ k := by
    rw [Nat.div_one]
    exact lastPlace_le_of_lt digits
  obtain ⟨q, hq⟩ := Nat.dvd_trans (Nat.pow_dvd_pow 2 place) divides
  rw [nearestUnits, Nat.one_mul]
  generalize lastPlace (units / 1) = i at *
  rw [hq, Nat.mul_comm (2 ^ i), Rounding.halfEven_mul q _ (Nat.two_pow_pos i)]

end Binary64

end StyleValue
