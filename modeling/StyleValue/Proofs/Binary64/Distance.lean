import StyleValue.Proofs.Binary64.Whole

/-!
# Whole distances

Two numbers of the format lie a whole number of ones apart only if both are whole, or if they have
the same fraction and what lies between them at whole distances are numbers of the format as well.
In either case rounding a place between them keeps it at a whole distance from them
(`Binary64.dvd_nearest_sub`).
-/

namespace StyleValue.Binary64

/-- Rounding keeps multiples of a power of two. -/
theorem two_pow_dvd_nearestUnits {i num : Nat} (h : 2 ^ i ∣ num) :
  2 ^ i ∣ nearestUnits num 1
  := by
  rw [nearestUnits, Nat.one_mul]
  generalize lastPlace (num / 1) = place
  rcases Nat.le_total i place with coarse | fine
  · apply Nat.dvd_trans (Nat.pow_dvd_pow 2 coarse)
    apply Nat.dvd_mul_left
  · obtain ⟨q, rfl⟩ := Nat.dvd_trans (Nat.pow_dvd_pow 2 fine) h
    rw [Nat.mul_comm (2 ^ place), Rounding.halfEven_mul q _ (Nat.two_pow_pos place),
      Nat.mul_comm q]
    apply h

theorem natAbs_nearest (z : Int) :
  (nearest z).natAbs = nearestUnits z.natAbs 1
  := natAbs_signed _ _

/-- A whole number is rounded to a whole number. -/
theorem unitsPerOne_dvd_nearest {z : Int} (h : (unitsPerOne : Int) ∣ z) :
  (unitsPerOne : Int) ∣ nearest z
  := by
  rw [Int.natCast_dvd] at h ⊢
  rw [natAbs_nearest]
  rw [unitsPerOne_eq] at h ⊢
  apply two_pow_dvd_nearestUnits h

/-! ### Between two numbers of the format -/

/-- What lies at whole distances between two numbers with the same fraction is a number of the
format. -/
theorem representable_of_between {m n z : Int} {i : Nat} (fraction : i ≤ 1074)
    (divides : 2 ^ i ∣ m.natAbs) (hm : m.natAbs < limit ∧ m.natAbs < 2 ^ (53 + i))
    (hn : n.natAbs < limit ∧ n.natAbs < 2 ^ (53 + i)) (apart : (unitsPerOne : Int) ∣ z - m)
    (between : z.natAbs ≤ m.natAbs ∨ z.natAbs ≤ n.natAbs) :
  Representable z.natAbs
  := by
  have fine : ((2 ^ i : Nat) : Int) ∣ unitsPerOne := by
    rw [unitsPerOne_eq]
    exact_mod_cast Nat.pow_dvd_pow 2 fraction
  have multiple : ((2 ^ i : Nat) : Int) ∣ z := by
    rw [← Int.natCast_dvd] at divides
    rw [← Int.sub_add_cancel z m]
    apply Int.dvd_add (Int.dvd_trans fine apart) divides
  constructor
  · omega
  · use i, Int.natCast_dvd.mp multiple
    omega

/-- Rounding keeps a place that lies between two numbers of the format, at whole distances from
them, at a whole distance. -/
theorem dvd_nearest_sub {m n z : Int} (hm : Representable m.natAbs) (hn : Representable n.natAbs)
    (apart : (unitsPerOne : Int) ∣ n - m) (step : (unitsPerOne : Int) ∣ z - m)
    (between : z.natAbs ≤ m.natAbs ∨ z.natAbs ≤ n.natAbs) :
  (unitsPerOne : Int) ∣ nearest z - m
  := by
  by_cases whole : (unitsPerOne : Int) ∣ m
  · apply Int.dvd_sub _ whole
    apply unitsPerOne_dvd_nearest
    rw [← Int.sub_add_cancel z m]
    apply Int.dvd_add step whole
  · -- the finer of the two numbers has the binary places of their common fraction
    have whole' : ¬ (unitsPerOne : Int) ∣ n := by
      intro dvd
      apply whole
      rw [← sub_sub_cancel n m]
      apply Int.dvd_sub dvd apart
    have fraction {k : Nat} {l : Int} (h : 2 ^ k ∣ l.natAbs) (hl : ¬ (unitsPerOne : Int) ∣ l) :
        k ≤ 1074 := by
      by_contra large
      apply hl
      rw [Int.natCast_dvd, unitsPerOne_eq]
      apply Nat.dvd_trans _ h
      apply Nat.pow_dvd_pow 2
      omega
    obtain ⟨inRange, j, divides, digits⟩ := hm
    obtain ⟨inRange', j', divides', digits'⟩ := hn
    rw [nearest_of_representable]
    · apply step
    · rcases Nat.le_total j j' with finer | coarser
      · have wide : 2 ^ (53 + j) ≤ 2 ^ (53 + j') := Nat.pow_le_pow_right Nat.two_pos (by omega)
        have step' : (unitsPerOne : Int) ∣ z - n := by
          rw [← sub_sub_sub_cancel_right z n m]
          apply Int.dvd_sub step apart
        apply representable_of_between (fraction divides' whole') divides' ⟨inRange', digits'⟩
          ⟨inRange, Nat.lt_of_lt_of_le digits wide⟩ step' between.symm
      · have wide : 2 ^ (53 + j') ≤ 2 ^ (53 + j) := Nat.pow_le_pow_right Nat.two_pos (by omega)
        apply representable_of_between (fraction divides whole) divides ⟨inRange, digits⟩
          ⟨inRange', Nat.lt_of_lt_of_le digits' wide⟩ step between

/-! ### Small numbers -/

theorem nearest_neg (z : Int) :
  nearest (-z) = -nearest z
  := by
  rcases Int.lt_trichotomy z 0 with negative | rfl | positive
  · rw [nearest_of_neg negative, nearest_of_nonneg (by omega), Int.natAbs_neg, Int.neg_neg]
  · rfl
  · rw [nearest_of_nonneg (Int.le_of_lt positive), nearest_of_neg (by omega), Int.natAbs_neg]

theorem nearest_whole {z : Int} (h : z.natAbs ≤ 2 ^ 53) :
  nearest (z * unitsPerOne) = z * unitsPerOne
  := by
  apply nearest_of_representable
  rw [Int.natAbs_mul, Int.natAbs_natCast]
  apply representable_whole h

/-- Before 2⁵³ one more is not rounded back. -/
theorem lt_nearest_add {m : Int} (h : m.natAbs < 2 ^ 53 * unitsPerOne) :
  m < nearest (m + unitsPerOne)
  := by
  have positive := Int.natCast_pos.mpr unitsPerOne_pos
  have most : m / unitsPerOne < 2 ^ 53 := Int.ediv_lt_of_lt_mul positive (by omega)
  have least : -2 ^ 53 ≤ m / unitsPerOne := Int.le_ediv_of_mul_le positive (by omega)
  have above := Int.lt_ediv_add_one_mul_self m positive
  have below := Int.ediv_mul_le m (Int.ne_of_gt positive)
  generalize m / unitsPerOne = q at *
  calc m
    _ < (q + 1) * unitsPerOne := above
    _ = nearest ((q + 1) * unitsPerOne) := by rw [nearest_whole (by omega)]
    _ ≤ nearest (m + unitsPerOne) := by
      apply nearest_mono
      rw [Int.add_mul, Int.one_mul]
      omega

end StyleValue.Binary64
