import Mathlib.Tactic.Linarith
import StyleValue.Number.Text
import StyleValue.Proofs.Binary64.Whole
import StyleValue.Proofs.Decimal.Context
import StyleValue.Proofs.Decimal.Text
import StyleValue.Proofs.Number.Equality
import StyleValue.Proofs.Number.Value

/-!
# Rounded texts

Every finite floating-point number is a decimal (`Binary64.value_exact`), and the context in which
it is rounded has room for its digits at every precision (`Binary64.exists_quantize_exact`).  So the
number is rounded once and from its exact value, and what is written is the numeral of the rounded
value (`Number.fixedText?_writes`).
-/

namespace StyleValue

/-! ### Floating-point numbers as decimals -/

namespace Binary64

theorem value_exact (negative : Bool) (units : Nat) :
  (exact negative units).value = signed negative units / unitsPerOne
  := by
  have value (k : Nat) : (Decimal.mk negative (units * 5 ^ k) (-k)).value
      = signed negative units / (2 ^ k : Nat) := by
    have five : (5 : Rat) ^ k ≠ 0 := pow_ne_zero _ (by norm_num)
    have ten : (10 : Rat) ^ k = 2 ^ k * 5 ^ k := by
      rw [← mul_pow]
      norm_num
    have sign : (signed negative units : Rat) = (if negative then -1 else 1) * units := by
      cases negative <;> simp [signed]
    rw [Decimal.value, zpow_neg, zpow_natCast, ten, sign]
    push_cast
    field_simp
  rw [unitsPerOne_eq]
  exact value 1074

theorem abs_signed (negative : Bool) (units : Nat) :
  |(signed negative units : Rat)| = units
  := by
  rw [← Int.cast_abs, Int.abs_eq_natAbs, natAbs_signed, Int.cast_natCast]

/-- The whole part of a finite number has less than 400 digits. -/
theorem lt_of_lt_limit {units : Nat} (h : units < limit) :
  units < 10 ^ 399 * unitsPerOne
  := by
  rw [unitsPerOne_eq]
  calc units
    _ < 2 ^ 2098 := Nat.lt_of_lt_of_eq h limit_eq
    _ ≤ 10 ^ 399 * 2 ^ 1074 := by decide +kernel

theorem abs_value_exact_lt (negative : Bool) {units m : Nat} (h : units < 10 ^ m * unitsPerOne) :
  |(exact negative units).value| < 10 ^ m
  := by
  rw [value_exact, abs_div, abs_signed, Nat.abs_cast, div_lt_iff₀ Number.cast_unitsPerOne_pos]
  exact_mod_cast h

/-- There is room for the digits of every finite number. -/
theorem exists_quantize_exact {context : DecimalContext} {precision : Int}
    (width : (context.width : Int) = floatDigits + precision) (negative : Bool) {units : Nat}
    (h : units < limit) :
  ∃ r, context.quantize (exact negative units) (-precision) = .ok r
  := by
  obtain ⟨k, digits⟩ := Nat.exists_eq_succ_of_ne_zero (Nat.ne_of_gt context.positive)
  have ten : (0 : Rat) < 10 := by norm_num
  have place : 399 + precision = k := by
    rw [digits, floatDigits] at width
    omega
  have small : |(exact negative units).value| * 10 ^ precision < 10 ^ k := by
    calc |(exact negative units).value| * 10 ^ precision
      _ < 10 ^ 399 * 10 ^ precision :=
        mul_lt_mul_of_pos_right (abs_value_exact_lt negative (lt_of_lt_limit h))
          (zpow_pos ten precision)
      _ = 10 ^ (399 + precision) := by rw [zpow_add₀ (ne_of_gt ten), zpow_ofNat]
      _ = 10 ^ k := by rw [place, zpow_natCast]
  have positive : (1 : Rat) ≤ 10 ^ k := one_le_pow₀ (by norm_num)
  rw [DecimalContext.quantize_isOk_iff, Int.neg_neg, Int.floor_lt, digits, pow_succ]
  push_cast
  linarith only [small, positive]

end Binary64

theorem Decimal.value_ofInt (n : Int) :
  (ofInt n).value = n
  := by
  rw [value, ofInt, zpow_zero, mul_one]
  rcases lt_or_ge n 0 with negative | positive
  · rw [if_pos (decide_eq_true negative), Nat.cast_natAbs, abs_of_neg negative, Int.cast_neg,
      neg_mul_neg, one_mul]
  · rw [if_neg (by simpa using positive), Nat.cast_natAbs, abs_of_nonneg positive, one_mul]

/-- Zero has no minus. -/
theorem Decimal.digits_ofInt_ne_zero (n : Int) :
  (ofInt n).negative → (ofInt n).digits ≠ 0
  := by
  intro minus zero
  have below := of_decide_eq_true minus
  rw [ofInt, Int.natAbs_eq_zero] at zero
  omega

/-! ### Texts -/

/-- A text is that of the canonical numeral of a number, with no more than `precision` fractional
digits. -/
def IsWritten (text : String) (v : Rat) (precision : Int) : Prop :=
  ∃ n : Numeral, text = n.text ∧ n.value = v ∧ (∀ m : Numeral, m.value = v → m = n)
    ∧ n.fraction.length ≤ precision.toNat ∧ (v = 0 → text = "0")

theorem isWritten_plain (d : Decimal) (h : d.negative → d.digits ≠ 0) {v : Rat}
    (value : d.value = v) {precision : Int} (places : d.places ≤ precision.toNat) :
  IsWritten d.plain v precision
  := by
  have value' := d.value_numeral h
  rw [value] at value'
  refine ⟨d.numeral h, (d.text_numeral h).symm, value', ?_, ?_, ?_⟩
  · intro m same
    apply Numeral.eq_of_value_eq
    rw [same, value']
  · apply Nat.le_trans _ places
    apply Decimal.length_fraction_le
  · rintro rfl
    apply Numeral.text_of_zero value'

/-- Numbers can be told from what is written. -/
theorem IsWritten.eq_iff {text text' : String} {v v' : Rat} {precision precision' : Int}
    (h : IsWritten text v precision) (h' : IsWritten text' v' precision') :
  text = text' ↔ v = v'
  := by
  obtain ⟨m, rfl, value, -⟩ := h
  obtain ⟨n, rfl, value', only, -⟩ := h'
  constructor
  · intro same
    rw [← value, ← value', Numeral.eq_of_text_eq same]
  · rintro rfl
    rw [only m value]

theorem isWritten_zero (precision : Int) :
  IsWritten "0" 0 precision
  := isWritten_plain ⟨false, 0, 0⟩ nofun ((Decimal.value_eq_zero_iff _).mpr rfl) (Nat.zero_le _)

/-- What a decimal that has been rounded in a context is written as. -/
theorem isWritten_quantize {context : DecimalContext} {d r : Decimal} {precision : Int}
    (h : context.quantize d (-precision) = .ok r) :
  IsWritten (if r.digits = 0 then "0" else (context.normalize r).plain)
    (roundHalfAway precision d.value) precision
  := by
  have rounded := DecimalContext.value_quantize h
  obtain ⟨-, place, -, fits⟩ := DecimalContext.parts_of_quantize h
  rw [Int.neg_neg] at rounded
  rw [← rounded]
  split
  next zero =>
    rw [r.value_eq_zero_iff.mpr zero]
    apply isWritten_zero
  next nonzero =>
    have value := DecimalContext.value_normalize fits
    apply isWritten_plain _ _ value
    · apply Nat.le_trans (DecimalContext.places_normalize_le fits)
      rw [Decimal.places, place, Int.neg_neg]
    · intro _ zero
      rw [← Decimal.value_eq_zero_iff, value, Decimal.value_eq_zero_iff] at zero
      exact nonzero zero

theorem ok_bind {ε α β : Type} (a : α) (f : α → Except ε β) :
  (Except.ok a >>= f) = f a
  := rfl

namespace Number

theorem exists_isWritten_int (n precision : Int) :
  ∃ text, (int n).fixedText? precision = .ok text ∧ IsWritten text n precision
  := by
  refine ⟨_, rfl, ?_⟩
  apply isWritten_plain _ (Decimal.digits_ofInt_ne_zero n) (Decimal.value_ofInt n) (Nat.zero_le _)

section

variable {negative : Bool} {units : Nat} {h : Binary64.Representable units} {precision : Int}

theorem fixedText?_of_le (coarse : precision ≤ -400) :
  (float (.finite negative units h)).fixedText? precision = .error .tooCoarse
  := by
  have none : floatDigits + precision ≤ 0 := by
    rw [floatDigits]
    omega
  rw [fixedText?, DecimalContext.ofWidth?_of_le none]
  rfl

theorem fixedText?_of_quantize {context : DecimalContext} {r : Decimal}
    (width : DecimalContext.ofWidth? (floatDigits + precision) = .ok context)
    (rounded : context.quantize (Binary64.exact negative units) (-precision) = .ok r) :
  (float (.finite negative units h)).fixedText? precision
    = .ok (if r.digits = 0 then "0" else (context.normalize r).plain)
  := by
  -- unfolded at once, the two sides would be compared by their digits
  rw [fixedText?, width, ok_bind, rounded]
  rfl

end

theorem exists_isWritten_float {x : Binary64} {v : Rat} {precision : Int}
    (value : (float x).value? = some v) (fine : -400 < precision) :
  ∃ text, (float x).fixedText? precision = .ok text
    ∧ IsWritten text (roundHalfAway precision v) precision
  := by
  rcases x with _ | negative | ⟨negative, units, h⟩
  · cases value
  · cases negative <;> cases value
  · cases value
    have some : 0 < floatDigits + precision := by
      rw [floatDigits]
      omega
    obtain ⟨context, made, width⟩ := DecimalContext.exists_ofWidth? some
    obtain ⟨r, rounded⟩ := Binary64.exists_quantize_exact width negative h.1
    refine ⟨_, fixedText?_of_quantize made rounded, ?_⟩
    rw [← Binary64.value_exact]
    apply isWritten_quantize rounded

/-- A whole number has the same text in either form when fractional digits are kept. -/
theorem fixedText?_int_eq_float {n : Int} {x : Binary64} {precision : Int} (fine : 0 ≤ precision)
    (value : (float x).value? = some (n : Rat)) :
  (int n).fixedText? precision = (float x).fixedText? precision
  := by
  have finer : -400 < precision := by omega
  obtain ⟨text, whole, written⟩ := exists_isWritten_int n precision
  obtain ⟨text', rounded, written'⟩ := exists_isWritten_float value finer
  rw [roundHalfAway_intCast fine] at written'
  rw [whole, rounded, (written.eq_iff written').mpr rfl]

/-- All forms of a number have the same text when fractional digits are kept. -/
theorem fixedText?_canonical {precision : Int} (fine : 0 ≤ precision) (x : Number) :
  x.canonical.fixedText? precision = x.fixedText? precision
  := by
  have place := position?_canonical x
  rcases x with n | _ | negative | ⟨negative, units, h⟩
  · rfl
  · rfl
  · rfl
  · rw [canonical] at place ⊢
    cases whole : (Binary64.finite negative units h).toInt? with
    | some n =>
        rw [whole] at place
        apply fixedText?_int_eq_float fine
        rw [value?, ← place, ← value?, value?_int]
    | none => rfl

/-- The text of a number is that of its value rounded to fractional digits; a whole number has no
digits to round. -/
theorem fixedText?_writes :
  (∀ (x : Binary64) (v : Rat) (precision : Int), (float x).value? = some v →
      -400 < precision → ∃ text, (float x).fixedText? precision = .ok text
        ∧ IsWritten text (roundHalfAway precision v) precision)
    ∧ ∀ n precision : Int, 0 ≤ precision → ∃ text, (int n).fixedText? precision = .ok text
      ∧ IsWritten text (roundHalfAway precision n) precision
  := by
  constructor
  · intro x v precision value fine
    exact exists_isWritten_float value fine
  · intro n precision fine
    rw [roundHalfAway_intCast fine]
    apply exists_isWritten_int

/-- A floating-point number in the middle between two tens, and a whole number. -/
theorem fixedText?_writes_five :
  ((float (.ofQuotient true 5 1)).value? = some (-5) ∧ (-400 : Int) < -1
      ∧ ∃ text, (float (.ofQuotient true 5 1)).fixedText? (-1) = .ok text
        ∧ IsWritten text (roundHalfAway (-1) (-5)) (-1))
    ∧ (0 : Int) ≤ 0
      ∧ ∃ text, (int (-5)).fixedText? 0 = .ok text ∧ IsWritten text (roundHalfAway 0 (-5 : Int)) 0
  := by
  have place := Binary64.position?_ofQuotient_whole true (n := 5) (by decide)
  have value : (float (.ofQuotient true 5 1)).value? = some (-5) := value?_of_whole place
  exact ⟨⟨value, by decide, fixedText?_writes.1 _ _ (-1) value (by decide)⟩, Int.le_refl 0,
    fixedText?_writes.2 (-5) 0 (Int.le_refl 0)⟩

example : (float (.ofQuotient true 5 1)).fixedText? (-1) = .ok "-10" := by decide +kernel

end Number

end StyleValue
