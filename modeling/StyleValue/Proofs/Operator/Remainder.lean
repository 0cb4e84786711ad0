import StyleValue.Proofs.Number.Remainder
import StyleValue.Proofs.Operator.Rules

/-!
# Quotients and remainders of quantities

A quotient and a remainder of the same operands have the same measure and location
(`perform_dividing`).  The remainder of two finite amounts of one sort, whole or floating-point, is
what the quotient truncated towards zero leaves, without rounding (`perform_modulo_truncates`).
-/

namespace StyleValue

/-- The quantity that a division makes of a number, from the locations and measures of the operands.
A plain divisor leaves the dividend its measure, a plain dividend takes that of the divisor, and two
measures cancel. -/
def Node.ratio
    (l : Option Location) (m : Measure) (l' : Option Location) (m' : Measure) (x : Number) : Node :=
  if m' = .plain then
    .quantity l m x
  else if m = .plain then
    .quantity l' m' x
  else
    .quantity l .plain x

section

variable {operator : Operator} {shape : Shape} {m m' : Measure}
  (divides : operator.zeroDivisor?.isSome)
  (listed : Rule.shape? operator m.kind m'.kind = some shape)

include divides listed

/-- Two measures are divided by each other only when they are of one kind. -/
theorem kind_eq_of_listed :
  m = .plain ∨ m' = .plain ∨ m.kind = m'.kind
  := by
  cases operator <;> cases divides <;> cases m <;> cases m' <;> cases listed <;> simp [Measure.kind]

/-- The operators that divide have the same shapes. -/
theorem quantity_eq_ratio (l l' : Option Location) (x : Number) :
  shape.isArithmetic ∧ shape.quantity l m l' m' x = .ratio l m l' m' x
  := by
  cases operator <;> cases divides <;> cases m <;> cases m' <;> cases listed <;>
    exact ⟨rfl, by simp [Shape.quantity, Node.ratio]⟩

/-- A division computes with the amounts, unless the divisor is zero. -/
theorem perform_dividing
    {b : Number} (nonzero : b.isZero = false) (l l' : Option Location) (a : Number) :
  perform operator.symbol (.quantity l m a) (.quantity l' m' b)
    = match operator.onNumbers a b with
      | .ok x => .ok (.ratio l m l' m' x)
      | .error e => .error (.arithmetic e)
  := by
  have arithmetic := (quantity_eq_ratio divides listed l l' a).1
  rw [perform_quantities listed arithmetic (fun _ => nonzero)]
  cases operator.onNumbers a b with
  | error e => rfl
  | ok x =>
      simp only
      rw [(quantity_eq_ratio divides listed l l' x).2]

end

/-- Remainders are taken of quantities only, and of finite amounts of one sort they have a value: it
is what the quotient truncated towards zero leaves of the dividend, in the sort of the amounts, with
the measure and location that the quotient has. -/
theorem perform_modulo_truncates
    {left right : Node} (supported : (Rule.find? left.kind "%" right.kind).isSome) :
  ∃ l m a l' m' b, left = .quantity l m a ∧ right = .quantity l' m' b
    ∧ (m = .plain ∨ m' = .plain ∨ m.kind = m'.kind)
    ∧ ∀ v w, a.value? = some v → b.value? = some w → w ≠ 0 → a.isWhole = b.isWhole →
      (∃ r x, perform "%" left right = .ok (.ratio l m l' m' r) ∧ r.isWhole = a.isWhole
          ∧ r.value? = some x ∧ IsRemainder v w x)
        ∧ ((∃ y, perform "/" left right = .ok (.ratio l m l' m' y))
          ∨ perform "/" left right = .error (.arithmetic .overflow))
  := by
  obtain ⟨⟨operator, shape⟩, found⟩ := Option.isSome_iff_exists.mp supported
  obtain ⟨symbol, listed⟩ := Rule.find?_eq_some_iff.mp found
  obtain rfl : operator = .modulo := by
    apply Option.some.inj
    rw [← Operator.ofSymbol?_eq_some_iff.mpr symbol]
    rfl
  rcases Rule.quantities_or_joined (Rule.fits_of_find? found) with
    ⟨-, l, m, a, l', m', b, rfl, rfl⟩ | ⟨⟨⟩, -⟩
  refine ⟨l, m, a, l', m', b, rfl, rfl, kind_eq_of_listed rfl listed, ?_⟩
  intro v w dividend divisor nonzero same
  have divisible : b.isZero = false :=
    (Number.isZero_of_value? divisor).trans (decide_eq_false nonzero)
  constructor
  · obtain ⟨r, x, remainder, whole, value, isRemainder⟩ :=
      Number.rem_isRemainder dividend divisor nonzero same
    have performed := perform_dividing rfl listed divisible l l' a
    rw [Operator.onNumbers, remainder] at performed
    exact ⟨r, x, performed, whole, value, isRemainder⟩
  · have listed' : Rule.shape? .divide m.kind m'.kind = some shape := listed
    have performed := perform_dividing rfl listed' divisible l l' a
    have settled := Operator.divide.settles_onNumbers a b fun _ => divisible
    rw [Operator.symbol] at performed
    rw [performed]
    generalize Operator.divide.onNumbers a b = quotient at settled
    generalize Operator.divide.overflows a b = overflows at settled
    cases settled with
    | overflow => exact Or.inr rfl
    | result y => exact Or.inl ⟨y, rfl⟩

/-- A negative number of pixels by a floating-point number of another unit. -/
theorem perform_modulo_truncates_cancelled :
  (Rule.find? .dimension "%" .dimension).isSome
    ∧ (Number.float (.ofQuotient true 7 1)).value? = some (-7)
    ∧ (Number.float (.ofQuotient false 3 1)).value? = some 3
    ∧ ∃ r x, perform "%" (.quantity none (.unit (.named "px")) (.float (.ofQuotient true 7 1)))
          (.quantity none (.unit (.named "em")) (.float (.ofQuotient false 3 1)))
        = .ok (.quantity none .plain r)
      ∧ r.value? = some x ∧ IsRemainder (-7) 3 x
  := by
  have dividend : (Number.float (.ofQuotient true 7 1)).value? = some (-7) :=
    Number.value?_of_whole (Binary64.position?_ofQuotient_whole true (n := 7) (by decide))
  have divisor : (Number.float (.ofQuotient false 3 1)).value? = some 3 :=
    Number.value?_of_whole (Binary64.position?_ofQuotient_whole false (n := 3) (by decide))
  refine ⟨rfl, dividend, divisor, ?_⟩
  obtain ⟨l, m, a, l', m', b, ⟨⟩, ⟨⟩, -, remainder⟩ := @perform_modulo_truncates
    (.quantity none (.unit (.named "px")) (.float (.ofQuotient true 7 1)))
    (.quantity none (.unit (.named "em")) (.float (.ofQuotient false 3 1))) rfl
  obtain ⟨⟨r, x, performed, -, value, isRemainder⟩, -⟩ :=
    remainder (-7) 3 dividend divisor (by norm_num) rfl
  exact ⟨r, x, performed, value, isRemainder⟩

end StyleValue
