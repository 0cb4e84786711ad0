import StyleValue.Operator.Perform
import StyleValue.Proofs.Binary64.Rounding

/-!
# When arithmetic fails

Arithmetic on two numbers fails for one of two reasons: the divisor is zero, or a whole number or
the quotient of two is rounded out of the finite range.  `Operator.overflows` says when the latter
happens, and `Operator.settles_onNumbers` that nothing else can go wrong when the divisor is not
zero.  Infinities and not-a-number never make an operation fail, on either side.
-/

namespace StyleValue

namespace Binary64

theorem isZero_finite {negative : Bool} {units : Nat} (h : Representable units) :
  (finite negative units h).isZero = decide (units = 0)
  := by
  cases units <;> rfl

/-- A quotient that is at least one is not rounded to zero. -/
theorem nearestUnits_pos {num den : Nat} (hden : 0 < den) (h : den ≤ num) :
  0 < nearestUnits num den
  := by
  rcases Nat.eq_zero_or_pos (lastPlace (num / den)) with none | some
  · have quotient : 1 ≤ num / den := (Nat.le_div_iff_mul_le hden).mpr (by omega)
    have far := Rounding.le_halfEven num den
    rw [nearestUnits, none, Nat.pow_zero, Nat.mul_one, Nat.mul_one]
    omega
  · apply Nat.lt_of_lt_of_le (Nat.two_pow_pos _)
    apply two_pow_le_nearestUnits
    omega

theorem unitsPerOne_pos :
  0 < unitsPerOne
  := by
  rw [unitsPerOne_eq]
  apply Nat.two_pow_pos

/-- Only zero is rounded to zero among the whole numbers. -/
theorem nearestUnits_unitsPerOne_mul_eq_zero_iff (n : Nat) :
  nearestUnits (unitsPerOne * n) 1 = 0 ↔ n = 0
  := by
  constructor
  · intro h
    by_contra nonzero
    have large : 1 ≤ unitsPerOne * n := Nat.mul_pos unitsPerOne_pos (Nat.pos_of_ne_zero nonzero)
    have := nearestUnits_pos Nat.one_pos large
    omega
  · rintro rfl
    rw [Nat.mul_zero]
    rfl

end Binary64

namespace Number

/-! ### Rounding an operand -/

/-- The whole numbers. -/
def isWhole : Number → Bool
  | .int _ => true
  | .float _ => false

/-- The whole numbers that are rounded out of the finite range. -/
def isTooLarge : Number → Bool
  | .int n => Binary64.overflowBound ≤ n.natAbs
  | .float _ => false

/-- A number is rounded to the format unless it is too large, and then stays zero or infinite if it
was. -/
theorem toBinary64_cases (a : Number) :
  (a.isTooLarge ∧ a.toBinary64 = .error .overflow)
    ∨ (¬ a.isTooLarge ∧ ∃ x, a.toBinary64 = .ok x
        ∧ x.isZero = a.isZero ∧ x.isInfinite = a.isInfinite)
  := by
  cases a with
  | int n =>
      simp only [isTooLarge, decide_eq_true_eq, toBinary64, Binary64.ofInt?]
      rcases @Binary64.ofQuotient_eq (n < 0) n.natAbs 1 Nat.one_pos with ⟨large, e⟩ | ⟨small, h, e⟩
      · left
        rw [e]
        exact ⟨by omega, rfl⟩
      · right
        rw [e]
        refine ⟨by omega, _, rfl, ?_, rfl⟩
        rw [Binary64.isZero_finite, isZero, decide_eq_decide,
          Binary64.nearestUnits_unitsPerOne_mul_eq_zero_iff]
        apply Int.natAbs_eq_zero
  | float x =>
      right
      use (by simp [isTooLarge]), x
      exact ⟨rfl, rfl, rfl⟩

/-- What comes out of an operation: an overflow, or else a number. -/
inductive Settles : Bool → Except ArithmeticError Number → Prop where
  | overflow : Settles true (.error .overflow)
  | result (x : Number) : Settles false (.ok x)

/-- An operation that rounds an operand first overflows if it is too large, or else in what
follows. -/
theorem settles_bind_toBinary64
    {a : Number} {next : Binary64 → Except ArithmeticError Number} {overflows : Bool}
    (h : ∀ x : Binary64, x.isZero = a.isZero → x.isInfinite = a.isInfinite →
      Settles overflows (next x)) :
  Settles (a.isTooLarge || overflows) (a.toBinary64 >>= next)
  := by
  rcases a.toBinary64_cases with ⟨large, e⟩ | ⟨small, x, e, zero, infinite⟩
  · rw [large, e]
    apply Settles.overflow
  · rw [Bool.eq_false_of_not_eq_true small, e]
    apply h x zero infinite

/-! ### Operations -/

/-- One of two numbers that are rounded before an operation is too large.  Two whole numbers are not
rounded. -/
def roundingOverflows (a b : Number) : Bool :=
  !(a.isWhole && b.isWhole) && (a.isTooLarge || b.isTooLarge)

/-- The quotient of two whole numbers is too large, or one of two numbers that are rounded before a
division. -/
def quotientOverflows : Number → Number → Bool
  | .int m, .int n => Binary64.overflowBound * n.natAbs ≤ m.natAbs
  | a, b => roundingOverflows a b

/-- An operand of a remainder is too large.  The remainder of an infinity is settled before the
other operand is rounded. -/
def remainderOverflows (a b : Number) : Bool :=
  !a.isInfinite && roundingOverflows a b

theorem settles_combine
    (onInt : Int → Int → Int) (onFloat : Binary64 → Binary64 → Binary64) (a b : Number) :
  Settles (roundingOverflows a b) (combine onInt onFloat a b)
  := by
  have mixed : Settles (a.isTooLarge || (b.isTooLarge || false)) (do
      let x ← a.toBinary64
      let y ← b.toBinary64
      return .float (onFloat x y)) := by
    apply settles_bind_toBinary64
    intro x _ _
    apply settles_bind_toBinary64
    intro y _ _
    apply Settles.result
  rw [Bool.or_false] at mixed
  match a, b with
  | .int m, .int n => exact Settles.result _
  | .int m, .float y => exact mixed
  | .float x, b => exact mixed

theorem settles_div {a b : Number} (h : b.isZero = false) :
  Settles (quotientOverflows a b) (div a b)
  := by
  have mixed : Settles (a.isTooLarge || (b.isTooLarge || false)) (do
      let x ← a.toBinary64
      let y ← b.toBinary64
      if y.isZero then .error .zeroDivisor else .ok (.float (x.div y))) := by
    apply settles_bind_toBinary64
    intro x _ _
    apply settles_bind_toBinary64
    intro y zero _
    rw [zero, h]
    apply Settles.result
  rw [Bool.or_false] at mixed
  match a, b with
  | .int m, .int n =>
      have nonzero : n ≠ 0 := of_decide_eq_false h
      rw [div, if_neg nonzero, quotientOverflows]
      rcases @Binary64.ofQuotient_eq ((m < 0) != (n < 0)) m.natAbs n.natAbs (by omega) with
        ⟨large, e⟩ | ⟨small, _, e⟩
      · rw [e, decide_eq_true large]
        apply Settles.overflow
      · rw [e, decide_eq_false (by omega)]
        apply Settles.result
  | .int m, .float y => exact mixed
  | .float x, b => exact mixed

/-- The remainder of a finite number by a divisor that is not zero has a value. -/
theorem floatRem_eq {x y : Binary64} (finite : x.isInfinite = false) (nonzero : y.isZero = false) :
  floatRem x y = .ok (.float (x.rem y))
  := by
  rw [floatRem, Binary64.rem?, finite, nonzero]
  rfl

theorem settles_rem {a b : Number} (h : b.isZero = false) :
  Settles (remainderOverflows a b) (rem a b)
  := by
  have mixed : Settles (a.isTooLarge || (!a.isInfinite && (b.isTooLarge || false))) (do
      let x ← a.toBinary64
      if x.isInfinite then
        return .float .nan
      let y ← b.toBinary64
      if y.isNaN then
        return .float .nan
      floatRem x y) := by
    apply settles_bind_toBinary64
    intro x _ infinite
    rw [← infinite]
    cases finite : x.isInfinite with
    | true => apply Settles.result
    | false =>
        apply settles_bind_toBinary64
        intro y zero _
        rw [floatRem_eq finite (zero.trans h)]
        cases y.isNaN <;> apply Settles.result
  rw [Bool.or_false] at mixed
  match a, b with
  | .int m, .int n =>
      have nonzero : n ≠ 0 := of_decide_eq_false h
      rw [rem, if_neg nonzero]
      apply Settles.result
  | .int m, .float y => exact mixed
  | .float x, b =>
      rw [remainderOverflows]
      exact mixed

end Number

namespace Operator

/-- Applying an operator to two numbers takes one of them, or the quotient, out of the finite
range. -/
def overflows : Operator → Number → Number → Bool
  | add => Number.roundingOverflows
  | subtract => Number.roundingOverflows
  | multiply => Number.roundingOverflows
  | divide => Number.quotientOverflows
  | modulo => Number.remainderOverflows

/-- An operator on numbers, unless it divides by zero, fails by an overflow only. -/
theorem settles_onNumbers
    (operator : Operator) (a b : Number) (h : operator.zeroDivisor?.isSome → b.isZero = false) :
  Number.Settles (operator.overflows a b) (operator.onNumbers a b)
  := by
  cases operator with
  | add => apply Number.settles_combine
  | subtract => apply Number.settles_combine
  | multiply => apply Number.settles_combine
  | divide => apply Number.settles_div (h rfl)
  | modulo => apply Number.settles_rem (h rfl)

end Operator

end StyleValue
