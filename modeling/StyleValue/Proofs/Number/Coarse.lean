import StyleValue.Proofs.Number.ShortText

/-!
# Coarse precisions

A whole number is written as it is, and the floating-point number equal to it is rounded first.
When fractional digits are kept there is nothing to round.  At a negative precision digits before
the point are rounded away, and the two texts are the same exactly when these digits are zeros
(`Number.fixedText?_forms`).
-/

namespace StyleValue

/-! ### Numbers that rounding does not change -/

/-- Rounding keeps exactly the numbers that have no further digits. -/
theorem roundHalfAway_eq_self_iff {precision : Int} {v : Rat} :
  roundHalfAway precision v = v ↔ ∃ m : Int, |v| * 10 ^ precision = m
  := by
  constructor
  · intro kept
    have power : (10 : Rat) ^ precision ≠ 0 := zpow_ne_zero _ (by norm_num)
    rw [roundHalfAway, div_eq_iff power] at kept
    use SignType.sign v * (SignType.sign v * ⌊|v| * 10 ^ precision + 1 / 2⌋)
    calc |v| * 10 ^ precision
      _ = SignType.sign v * (v * 10 ^ precision) := by
        rw [← self_mul_sign, mul_comm v, mul_assoc]
      _ = SignType.sign v * (SignType.sign v * ⌊|v| * 10 ^ precision + 1 / 2⌋) := by rw [kept]
      _ = _ := by push_cast; rfl
  · rintro ⟨m, whole⟩
    apply roundHalfAway_of_whole whole

/-- A whole number has no further digits when fractional digits are kept, or when those that are
rounded away are zeros. -/
theorem roundHalfAway_intCast_eq_self_iff {precision n : Int} :
  roundHalfAway precision n = n ↔ 0 ≤ precision ∨ (10 ^ (-precision).toNat : Int) ∣ n
  := by
  rcases Int.le_total 0 precision with fine | coarse
  · exact iff_of_true (roundHalfAway_intCast fine n) (Or.inl fine)
  · obtain ⟨k, rfl⟩ := Int.exists_eq_neg_ofNat coarse
    have power : (10 : Rat) ^ k ≠ 0 := pow_ne_zero _ (by norm_num)
    have scaled (m : Int) : |(n : Rat)| * 10 ^ (-(k : Int)) = m ↔ |n| = 10 ^ k * m := by
      rw [zpow_neg, zpow_natCast, ← div_eq_mul_inv, div_eq_iff power, mul_comm]
      norm_cast
    simp only [roundHalfAway_eq_self_iff, scaled, Int.neg_neg, Int.toNat_natCast, ← dvd_abs _ n]
    constructor
    · intro divides
      exact Or.inr divides
    · rintro (fine | divides)
      · obtain rfl : k = 0 := by omega
        apply one_dvd
      · exact divides

/-! ### Texts of the forms of a whole number -/

namespace Number

/-- How the whole number `n` and the floating-point number `x` are written at a precision. -/
structure WritesForms (n : Int) (x : Binary64) (precision : Int) : Prop where
  /-- The whole number is not rounded. -/
  whole : ∃ text, (int n).fixedText? precision = .ok text ∧ IsWritten text n precision
  /-- The floating-point number is. -/
  rounded : ∃ text, (float x).fixedText? precision = .ok text
    ∧ IsWritten text (roundHalfAway precision n) precision
  /-- So the texts are the same unless other digits than zeros are rounded away. -/
  same_iff : (int n).fixedText? precision = (float x).fixedText? precision
    ↔ 0 ≤ precision ∨ (10 ^ (-precision).toNat : Int) ∣ n
  /-- Plain numbers have these texts in every configuration of the precision. -/
  plain_same_iff : ∀ (config : Config) (l l' : Option Location), config.precision = precision →
    ((Node.quantity l .plain (.int n)).toText? config
        = (Node.quantity l' .plain (.float x)).toText? config
      ↔ 0 ≤ precision ∨ (10 ^ (-precision).toNat : Int) ∣ n)

/-- A whole number has the same text in either form when fractional digits are kept, and when the
digits before the point that are rounded away are zeros, but not otherwise. -/
theorem fixedText?_forms {n : Int} {x : Binary64} {precision : Int}
    (same : (int n).equals (float x)) (fine : -400 < precision) :
  WritesForms n x precision
  := by
  have place : (int n).position? = (float x).position? := position?_eq_iff.mpr (Or.inl same)
  have value : (float x).value? = some (n : Rat) := by
    rw [value?, ← place, ← value?, value?_int]
  obtain ⟨text, whole, written⟩ := exists_isWritten_int n precision
  obtain ⟨text', rounded, written'⟩ := exists_isWritten_float value fine
  have texts : text = text' ↔ 0 ≤ precision ∨ (10 ^ (-precision).toNat : Int) ∣ n := by
    rw [written.eq_iff written', eq_comm, roundHalfAway_intCast_eq_self_iff]
  refine ⟨⟨text, whole, written⟩, ⟨text', rounded, written'⟩, ?_, ?_⟩
  · rw [whole, rounded, Except.ok.injEq, texts]
  · rintro config l l' rfl
    rw [Node.toText?, Node.toText?, whole, rounded, ← texts]
    simp [Functor.map, Except.map]

/-- The two forms of fifteen, which is halfway between two tens. -/
theorem fixedText?_forms_fifteen :
  (int 15).equals (float (.ofQuotient false 15 1)) ∧ (-400 : Int) < -1
    ∧ WritesForms 15 (.ofQuotient false 15 1) (-1)
  := by
  have same : (int 15).equals (float (.ofQuotient false 15 1)) := by decide +kernel
  exact ⟨same, by decide, fixedText?_forms same (by decide)⟩

/-- Only one of the two forms of fifteen is rounded to tens. -/
theorem not_forall_fixedText?_forms :
  ¬ ∀ (n : Int) (x : Binary64) (precision : Int), (int n).equals (float x) →
    -400 < precision →
    (int n).fixedText? precision = (float x).fixedText? precision
  := by
  intro always
  have same := always 15 (.ofQuotient false 15 1) (-1) (by decide +kernel) (by decide)
  revert same
  decide +kernel

end Number

end StyleValue
