import StyleValue.Proofs.Binary64.Whole

/-!
# Arithmetic on the forms of a number

A whole number up to 2⁵³ may as well be stored as a floating-point number at the same place, which
for zero is one of two.  Arithmetic does not depend on the form as long as no whole number leaves
this range: it has a result, at the place of the result on floating-point numbers
(`Operator.exists_onNumbers`).
-/

namespace StyleValue

namespace Number

/-- The remainder of whole numbers is that of the quotient truncated towards zero. -/
theorem intRem_eq_tmod (m n : Int) :
  intRem m n = m.tmod n
  := by
  have signed := Binary64.signed_tmod (m < 0) m.natAbs n
  rw [Binary64.signed_natAbs] at signed
  rw [signed, intRem, Binary64.signed]
  simp only [decide_eq_true_eq]

/-! ### The exact range -/

/-- Not a whole number beyond 2⁵³, on either side. -/
def IsExact : Number → Prop
  | .int n => n.natAbs ≤ 2 ^ 53
  | .float _ => True

instance (a : Number) : Decidable a.IsExact :=
  match a with
  | .int n => inferInstanceAs (Decidable (n.natAbs ≤ 2 ^ 53))
  | .float _ => inferInstanceAs (Decidable True)

/-- A number in the exact range is rounded to a floating-point number at its place. -/
theorem toBinary64_of_isExact {a : Number} (h : a.IsExact) :
  ∃ x, a.toBinary64 = .ok x ∧ x.position? = a.position?
  := by
  cases a with
  | float x => exact ⟨x, rfl, rfl⟩
  | int n =>
      obtain ⟨x, converted, place⟩ := Binary64.exists_ofInt? h
      use x
      rw [toBinary64, converted]
      exact ⟨rfl, place⟩

/-! ### Numbers that are not both whole -/

section

variable {a b : Number} (mixed : ¬ (a.isWhole ∧ b.isWhole)) {x y : Binary64}
  (hx : a.toBinary64 = .ok x) (hy : b.toBinary64 = .ok y)

include mixed hx hy

theorem combine_of_not_isWhole
    (onInt : Int → Int → Int) (onFloat : Binary64 → Binary64 → Binary64) :
  combine onInt onFloat a b = .ok (.float (onFloat x y))
  := by
  cases a <;> cases b
  case int.int => exact absurd ⟨rfl, rfl⟩ mixed
  all_goals
    rw [combine, hx, hy]
    · rfl
    · simp

theorem div_of_not_isWhole (divisor : y.isZero = false) :
  div a b = .ok (.float (x.div y))
  := by
  have value : (if y.isZero then .error .zeroDivisor else .ok (.float (x.div y)))
      = (Except.ok (.float (x.div y)) : Except ArithmeticError Number) := by
    rw [divisor]
    rfl
  cases a <;> cases b
  case int.int => exact absurd ⟨rfl, rfl⟩ mixed
  all_goals
    rw [div, hx, hy]
    · exact value
    · simp

/-- The remainders that are settled beforehand are those of floating-point numbers. -/
theorem rem_of_not_isWhole (divisor : y.isZero = false) :
  rem a b = .ok (.float (x.rem y))
  := by
  have value : (if x.isInfinite then .ok (.float .nan)
        else if y.isNaN then .ok (.float .nan) else floatRem x y)
      = (Except.ok (.float (x.rem y)) : Except ArithmeticError Number) := by
    rcases x with _ | _ | _ <;> rcases y with _ | _ | _ <;> try rfl
    · exact floatRem_eq rfl divisor
    · exact floatRem_eq rfl divisor
  cases a <;> cases b
  case int.int => exact absurd ⟨rfl, rfl⟩ mixed
  all_goals
    rw [rem, hx, hy]
    · exact value
    · simp

end

end Number

namespace Operator

/-! ### Operators on floating-point numbers -/

/-- The operator on floating-point numbers. -/
def onFloats : Operator → Binary64 → Binary64 → Binary64
  | add => Binary64.add
  | subtract => Binary64.sub
  | multiply => Binary64.mul
  | divide => Binary64.div
  | modulo => Binary64.rem

/-- The place of a result depends on the places of the operands only. -/
theorem position?_onFloats_congr
    (operator : Operator) {x x' y y' : Binary64} (hx : x.position? = x'.position?)
    (hy : y.position? = y'.position?)
    (divisor : operator.zeroDivisor?.isSome → y.isZero = false) :
  (operator.onFloats x y).position? = (operator.onFloats x' y').position?
  := by
  cases operator with
  | add => exact Binary64.position?_add_congr hx hy
  | subtract => exact Binary64.position?_sub_congr hx hy
  | multiply => exact Binary64.position?_mul_congr hx hy
  | divide => exact Binary64.position?_div_congr hx hy (divisor rfl)
  | modulo => exact Binary64.position?_rem_congr hx hy (divisor rfl)

/-- Unless both numbers are whole, they are rounded, and the operator is applied to floating-point
numbers. -/
theorem onNumbers_of_not_isWhole
    (operator : Operator) {a b : Number} (mixed : ¬ (a.isWhole ∧ b.isWhole)) {x y : Binary64}
    (hx : a.toBinary64 = .ok x) (hy : b.toBinary64 = .ok y)
    (divisor : operator.zeroDivisor?.isSome → y.isZero = false) :
  operator.onNumbers a b = .ok (.float (operator.onFloats x y))
  := by
  cases operator with
  | add => apply Number.combine_of_not_isWhole mixed hx hy
  | subtract => apply Number.combine_of_not_isWhole mixed hx hy
  | multiply => apply Number.combine_of_not_isWhole mixed hx hy
  | divide => apply Number.div_of_not_isWhole mixed hx hy (divisor rfl)
  | modulo => apply Number.rem_of_not_isWhole mixed hx hy (divisor rfl)

/-! ### Operators on whole numbers -/

/-- The sum, difference or product of two whole numbers stays in the exact range. -/
def IsExact : Operator → Number → Number → Prop
  | add, .int m, .int n => (m + n).natAbs ≤ 2 ^ 53
  | subtract, .int m, .int n => (m - n).natAbs ≤ 2 ^ 53
  | multiply, .int m, .int n => (m * n).natAbs ≤ 2 ^ 53
  | _, _, _ => True

/-- On whole numbers in the exact range the operator has a result, at the place of that on
floating-point numbers. -/
theorem exists_onNumbers_int
    (operator : Operator) {m n : Int} (small : (Number.int m).IsExact)
    (exact : operator.IsExact (.int m) (.int n))
    (divisor : operator.zeroDivisor?.isSome → (Number.int n).isZero = false) {x y : Binary64}
    (hx : x.position? = (Number.int m).position?) (hy : y.position? = (Number.int n).position?) :
  ∃ r, operator.onNumbers (.int m) (.int n) = .ok r
    ∧ r.position? = (operator.onFloats x y).position?
  := by
  cases operator with
  | add => exact ⟨_, rfl, (Binary64.position?_add_whole hx hy exact).symm⟩
  | subtract => exact ⟨_, rfl, (Binary64.position?_sub_whole hx hy exact).symm⟩
  | multiply => exact ⟨_, rfl, (Binary64.position?_mul_whole hx hy exact).symm⟩
  | divide =>
      have nonzero : n ≠ 0 := of_decide_eq_false (divisor rfl)
      have positive : 0 < n.natAbs := Int.natAbs_pos.mpr nonzero
      have inRange : m.natAbs < Binary64.overflowBound * n.natAbs :=
        Nat.lt_of_lt_of_le (Binary64.lt_overflowBound small) (Nat.le_mul_of_pos_right _ positive)
      have place := Binary64.position?_div_whole hx hy nonzero
      rcases @Binary64.ofQuotient_eq ((m < 0) != (n < 0)) m.natAbs n.natAbs positive with
        ⟨large, -⟩ | ⟨-, h, rounded⟩
      · omega
      · rw [rounded] at place
        refine ⟨.float (.finite _ _ h), ?_, place.symm⟩
        rw [onNumbers, Number.div, if_neg nonzero, rounded]
  | modulo =>
      have nonzero : n ≠ 0 := of_decide_eq_false (divisor rfl)
      refine ⟨.int (m.tmod n), ?_, (Binary64.position?_rem_whole hx hy nonzero).symm⟩
      rw [onNumbers, Number.rem, if_neg nonzero, Number.intRem_eq_tmod]

/-! ### Operators on numbers in the exact range -/

/-- On numbers in the exact range the operator has a result, at the place of that on floating-point
numbers. -/
theorem exists_onNumbers
    (operator : Operator) {a b : Number} (left : a.IsExact) (right : b.IsExact)
    (exact : operator.IsExact a b) (divisor : operator.zeroDivisor?.isSome → b.isZero = false)
    {x y : Binary64} (hx : x.position? = a.position?) (hy : y.position? = b.position?) :
  ∃ r, operator.onNumbers a b = .ok r ∧ r.position? = (operator.onFloats x y).position?
  := by
  by_cases mixed : a.isWhole ∧ b.isWhole
  · cases a with
    | float => cases mixed.1
    | int m =>
        cases b with
        | float => cases mixed.2
        | int n => exact operator.exists_onNumbers_int left exact divisor hx hy
  · obtain ⟨x', rounded, place⟩ := Number.toBinary64_of_isExact left
    obtain ⟨y', rounded', place'⟩ := Number.toBinary64_of_isExact right
    have divisor' (divides : operator.zeroDivisor?.isSome) : y'.isZero = false :=
      (Number.isZero_eq_of_position? (a := .float y') place').trans (divisor divides)
    refine ⟨_, operator.onNumbers_of_not_isWhole mixed rounded rounded' divisor', ?_⟩
    exact operator.position?_onFloats_congr (place.trans hx.symm) (place'.trans hy.symm) divisor'

/-- Operators have results at one place on numbers in the exact range at the same places. -/
theorem onNumbers_congr
    (operator : Operator) {a a' b b' : Number} (ha : a.position? = a'.position?)
    (hb : b.position? = b'.position?) (left : a.IsExact) (left' : a'.IsExact) (right : b.IsExact)
    (right' : b'.IsExact) (exact : operator.IsExact a b) (exact' : operator.IsExact a' b')
    (divisor : operator.zeroDivisor?.isSome → b.isZero = false) :
  ∃ r r', operator.onNumbers a b = .ok r ∧ operator.onNumbers a' b' = .ok r'
    ∧ r.position? = r'.position?
  := by
  obtain ⟨x, -, hx⟩ := Number.toBinary64_of_isExact left
  obtain ⟨y, -, hy⟩ := Number.toBinary64_of_isExact right
  obtain ⟨r, value, place⟩ := operator.exists_onNumbers left right exact divisor hx hy
  obtain ⟨r', value', place'⟩ := operator.exists_onNumbers left' right' exact'
    (fun divides => Number.isZero_eq_of_position? hb ▸ divisor divides) (hx.trans ha) (hy.trans hb)
  exact ⟨r, r', value, value', place.trans place'.symm⟩

end Operator

end StyleValue
