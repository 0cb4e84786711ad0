import StyleValue.Proofs.Binary64.Whole
import StyleValue.Proofs.Number.Form
import StyleValue.Proofs.Operator.Formula

/-!
# Operands exchanged

Sums and products of numbers do not depend on the order of the operands, and a difference turns into
its opposite when they are exchanged; an operation overflows in both orders or in neither
(`RingOperator.onNumbers_exchange`).  Between a plain number and a percentage or dimension, the
latter lends the result its measure and location on whichever side it stands, so that the two orders
have the same outcome, up to the sign of a difference (`perform_plain_on_either_side`).
-/

namespace StyleValue

namespace Binary64

/-! ### Negatives -/

theorem signed_not (negative : Bool) (n : Nat) :
  signed (!negative) n = -signed negative n
  := by
  cases negative <;> simp [signed]

theorem neg_round (negative : Bool) (num den : Nat) :
  (round negative num den).neg = round (!negative) num den
  := by
  rw [round, round]
  split <;> rfl

theorem sub_finite
    {s t : Bool} {u v : Nat} (hu : Representable u) (hv : Representable v) :
  (finite s u hu).sub (finite t v hv)
    = if signed s u - signed t v = 0 then zero (s && !t)
      else round (signed s u - signed t v < 0) (signed s u - signed t v).natAbs 1
  := by
  simp only [sub, neg, add, signed_not, ← Int.sub_eq_add_neg]

/-- A difference lies across from the one in the other order. -/
theorem position?_sub_exchange (x y : Binary64) :
  (x.sub y).position? = (y.sub x).neg.position?
  := by
  rcases x with _ | s | ⟨s, u, hu⟩ <;> rcases y with _ | t | ⟨t, v, hv⟩
  case infinity.infinity => cases s <;> cases t <;> rfl
  case infinity.finite => cases s <;> rfl
  case finite.infinity => cases t <;> rfl
  case finite.finite =>
    rw [sub_finite, sub_finite, ← Int.neg_sub (signed s u), Int.natAbs_neg]
    generalize signed s u - signed t v = difference
    -- a difference that cancels is a zero in both orders, whose sign no place shows
    rcases eq_or_ne difference 0 with rfl | apart
    · rw [Int.neg_zero, if_pos rfl, if_pos rfl, zero, zero, neg_round, position?_round_zero,
        position?_round_zero]
    · have sign : (!decide (-difference < 0)) = decide (difference < 0) := by
        rw [← decide_not, decide_eq_decide]
        omega
      rw [if_neg apart, if_neg (Int.neg_ne_zero.mpr apart), neg_round, sign]
  all_goals rfl

end Binary64

/-- Both computations fail alike, or both have results, and these are related. -/
def Alike {ε α : Type} (related : α → α → Prop) (r r' : Except ε α) : Prop :=
  (∃ e, r = .error e ∧ r' = .error e) ∨ ∃ x x', r = .ok x ∧ r' = .ok x' ∧ related x x'

namespace Number

/-- The number on the other side of zero. -/
def neg : Number → Number
  | .int n => .int (-n)
  | .float x => .float x.neg

/-- Two numbers lie across from each other, or neither is a number. -/
def Opposite (a b : Number) : Prop := a.equals b.neg ∨ a.isNaN ∧ b.isNaN

theorem isNaN_neg (a : Number) :
  a.neg.isNaN = a.isNaN
  := by
  rcases a with _ | _ | _ | _ <;> rfl

/-- Numbers are opposite when one has the place of the negative of the other. -/
theorem opposite_iff {a b : Number} :
  a.Opposite b ↔ a.position? = b.neg.position?
  := by
  rw [Opposite, position?_eq_iff, isNaN_neg]

/-! ### Operations in both orders -/

theorem combine_of_isTooLarge
    (onInt : Int → Int → Int) (onFloat : Binary64 → Binary64 → Binary64) {a b : Number}
    (mixed : ¬ (a.isWhole ∧ b.isWhole)) (large : a.isTooLarge ∨ b.isTooLarge) :
  combine onInt onFloat a b = .error .overflow
  := by
  have overflows : roundingOverflows a b = true := by
    rw [roundingOverflows, Bool.and_eq_true, Bool.not_eq_true', ← Bool.not_eq_true,
      Bool.and_eq_true, Bool.or_eq_true]
    exact ⟨mixed, large⟩
  have settled := settles_combine onInt onFloat a b
  rw [overflows] at settled
  generalize combine onInt onFloat a b = r at settled
  cases settled
  rfl

/-- An operation overflows in both orders, or it has a result in both, computed from the same two
numbers. -/
theorem combine_exchange
    {onInt : Int → Int → Int} {onFloat : Binary64 → Binary64 → Binary64}
    {related : Number → Number → Prop}
    (ints : ∀ m n, related (.int (onInt m n)) (.int (onInt n m)))
    (floats : ∀ x y, related (.float (onFloat x y)) (.float (onFloat y x))) (a b : Number) :
  Alike related (combine onInt onFloat a b) (combine onInt onFloat b a)
  := by
  by_cases mixed : a.isWhole ∧ b.isWhole
  · cases a with
    | float => cases mixed.1
    | int m =>
        cases b with
        | float => cases mixed.2
        | int n => exact Or.inr ⟨_, _, rfl, rfl, ints m n⟩
  · have mixed' : ¬ (b.isWhole ∧ a.isWhole) := mixed ∘ And.symm
    rcases a.toBinary64_cases with ⟨large, -⟩ | ⟨-, x, hx, -⟩
    · left
      exact ⟨.overflow, combine_of_isTooLarge onInt onFloat mixed (Or.inl large),
        combine_of_isTooLarge onInt onFloat mixed' (Or.inr large)⟩
    · rcases b.toBinary64_cases with ⟨large, -⟩ | ⟨-, y, hy, -⟩
      · left
        exact ⟨.overflow, combine_of_isTooLarge onInt onFloat mixed (Or.inr large),
          combine_of_isTooLarge onInt onFloat mixed' (Or.inl large)⟩
      · right
        exact ⟨_, _, combine_of_not_isWhole mixed hx hy onInt onFloat,
          combine_of_not_isWhole mixed' hy hx onInt onFloat, floats x y⟩

end Number

namespace RingOperator

/-- How the results of an operator in both orders are related. -/
def exchanged : RingOperator → Number → Number → Prop
  | add => Eq
  | subtract => Number.Opposite
  | multiply => Eq

theorem onNumbers_exchange (operator : RingOperator) (a b : Number) :
  Alike operator.exchanged (operator.operator.onNumbers a b) (operator.operator.onNumbers b a)
  := by
  cases operator with
  | add =>
      apply Number.combine_exchange
      · intro m n
        rw [Int.add_comm]
        rfl
      · intro x y
        rw [Binary64.add_comm]
        rfl
  | subtract =>
      apply Number.combine_exchange
      · intro m n
        apply Number.opposite_iff.mpr
        rw [Number.neg, Int.neg_sub]
      · intro x y
        apply Number.opposite_iff.mpr
        apply Binary64.position?_sub_exchange
  | multiply =>
      apply Number.combine_exchange
      · intro m n
        rw [Int.mul_comm]
        rfl
      · intro x y
        rw [Binary64.mul_comm]
        rfl

end RingOperator

/-! ### A plain number beside a percentage or dimension -/

/-- Two quantities with the same location and measure, and with related amounts. -/
def Node.SameButAmount
    (l : Option Location) (m : Measure) (related : Number → Number → Prop) (n n' : Node) : Prop :=
  ∃ x x', n = .quantity l m x ∧ n' = .quantity l m x' ∧ related x x'

/-- The percentage or dimension lends the result its location and measure in both orders. -/
theorem RingOperator.perform_exchange
    (operator : RingOperator) {m : Measure} (measured : m ≠ .plain) (l l' : Option Location)
    (a b : Number) :
  Alike (Node.SameButAmount l' m operator.exchanged)
    (perform operator.operator.symbol (.quantity l .plain a) (.quantity l' m b))
    (perform operator.operator.symbol (.quantity l' m b) (.quantity l .plain a))
  := by
  have left : Rule.shape? operator.operator Measure.plain.kind m.kind = some .ontoRight := by
    cases m with
    | plain => exact absurd rfl measured
    | _ => cases operator <;> rfl
  have right : Rule.shape? operator.operator m.kind Measure.plain.kind = some .ontoLeft := by
    cases operator <;> cases m <;> rfl
  have divisor (c : Number) (divides : operator.operator.zeroDivisor?.isSome) :
      c.isZero = false := by
    rw [operator.zeroDivisor?_operator] at divides
    cases divides
  rw [perform_quantities left rfl (divisor b), perform_quantities right rfl (divisor a)]
  rcases operator.onNumbers_exchange a b with
    ⟨e, failed, failed'⟩ | ⟨x, x', value, value', related⟩
  · rw [failed, failed']
    exact Or.inl ⟨_, rfl, rfl⟩
  · rw [value, value']
    exact Or.inr ⟨_, _, rfl, rfl, x, x', rfl, rfl, related⟩

/-- Sums and products of a plain number and a percentage or dimension fail alike in both orders, or
have the same result with the measure and location of the percentage or dimension.  Differences fail
alike, or their amounts are opposite. -/
theorem perform_plain_on_either_side
    {m : Measure} (measured : m ≠ .plain) (l l' : Option Location) (a b : Number) :
  Alike (Node.SameButAmount l' m Eq)
      (perform "+" (.quantity l .plain a) (.quantity l' m b))
      (perform "+" (.quantity l' m b) (.quantity l .plain a))
    ∧ Alike (Node.SameButAmount l' m Eq)
      (perform "*" (.quantity l .plain a) (.quantity l' m b))
      (perform "*" (.quantity l' m b) (.quantity l .plain a))
    ∧ Alike (Node.SameButAmount l' m Number.Opposite)
      (perform "-" (.quantity l .plain a) (.quantity l' m b))
      (perform "-" (.quantity l' m b) (.quantity l .plain a))
  := by
  refine ⟨?_, ?_, ?_⟩
  · apply RingOperator.perform_exchange .add measured
  · apply RingOperator.perform_exchange .multiply measured
  · apply RingOperator.perform_exchange .subtract measured

/-- A whole number that is rounded, beside a floating-point number of pixels. -/
theorem perform_plain_on_either_side_rounded :
  Measure.unit (.named "px") ≠ .plain
    ∧ Alike (Node.SameButAmount none (.unit (.named "px")) Eq)
        (perform "+" (.quantity (some ⟨1, 2, none⟩) .plain (.int 9007199254740993))
          (.quantity none (.unit (.named "px")) (.float (.ofBits 0x3ff8000000000000))))
        (perform "+" (.quantity none (.unit (.named "px")) (.float (.ofBits 0x3ff8000000000000)))
          (.quantity (some ⟨1, 2, none⟩) .plain (.int 9007199254740993)))
    ∧ Alike (Node.SameButAmount none (.unit (.named "px")) Number.Opposite)
        (perform "-" (.quantity (some ⟨1, 2, none⟩) .plain (.int 9007199254740993))
          (.quantity none (.unit (.named "px")) (.float (.ofBits 0x3ff8000000000000))))
        (perform "-" (.quantity none (.unit (.named "px")) (.float (.ofBits 0x3ff8000000000000)))
          (.quantity (some ⟨1, 2, none⟩) .plain (.int 9007199254740993)))
  := by
  have measured : Measure.unit (.named "px") ≠ .plain := nofun
  obtain ⟨sum, -, difference⟩ := perform_plain_on_either_side measured (some ⟨1, 2, none⟩) none
    (.int 9007199254740993) (.float (.ofBits 0x3ff8000000000000))
  exact ⟨measured, sum, difference⟩

end StyleValue
