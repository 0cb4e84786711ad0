import StyleValue.Proofs.Number.Equality
import StyleValue.Proofs.Operator.Rules

/-!
# Outcomes of operations

An operation without a rule is not supported, one that divides by zero is refused, one that takes an
amount out of the finite range overflows, and all others have a result.  `Outcome` lists these four
cases, no two of which overlap, and `perform_outcome` says that there are no others.  In particular
no rule meets operands that it was not made for, and no division is without a value once its divisor
has been looked at.
-/

namespace StyleValue

/-- The operation divides, and the amount of its right operand is zero. -/
def DividesByZero (symbol : String) (left right : Node) (code : ErrorCode) : Prop :=
  ∃ rule b, Rule.find? left.kind symbol right.kind = some rule
    ∧ rule.operator.zeroDivisor? = some code ∧ right.toNumber? = some b ∧ b.isZero

/-- The operation computes with two amounts, does not divide by zero, and overflows. -/
def Exceeds (symbol : String) (left right : Node) : Prop :=
  ∃ rule a b, Rule.find? left.kind symbol right.kind = some rule
    ∧ left.toNumber? = some a ∧ right.toNumber? = some b
    ∧ (rule.operator.zeroDivisor?.isSome → b.isZero = false) ∧ rule.operator.overflows a b

/-- What an operation ends in, and when. -/
inductive Outcome (symbol : String) (left right : Node) : Except Failure Node → Prop where
  | unsupported (missing : Rule.find? left.kind symbol right.kind = none) :
      Outcome symbol left right
        (.error (.operation ⟨.unsupportedOperation, .of symbol left right, left.loc⟩))
  | zeroDivisor {code : ErrorCode} (divides : DividesByZero symbol left right code) :
      Outcome symbol left right (.error (.operation ⟨code, .of symbol left right, right.loc⟩))
  | overflow (exceeds : Exceeds symbol left right) :
      Outcome symbol left right (.error (.arithmetic .overflow))
  | result (n : Node) (found : (Rule.find? left.kind symbol right.kind).isSome)
      (divisor : ∀ code, ¬ DividesByZero symbol left right code)
      (within : ¬ Exceeds symbol left right) :
      Outcome symbol left right (.ok n)

section

variable {symbol : String} {left right : Node} {rule : Rule}

theorem dividesByZero_iff (found : Rule.find? left.kind symbol right.kind = some rule)
    (code : ErrorCode) :
  DividesByZero symbol left right code
    ↔ rule.operator.zeroDivisor? = some code ∧ ∃ b, right.toNumber? = some b ∧ b.isZero
  := by
  constructor
  · rintro ⟨_, b, found', divides, amount, zero⟩
    rw [found] at found'
    obtain rfl := Option.some.inj found'
    exact ⟨divides, b, amount, zero⟩
  · rintro ⟨divides, b, amount, zero⟩
    exact ⟨rule, b, found, divides, amount, zero⟩

theorem exceeds_iff (found : Rule.find? left.kind symbol right.kind = some rule) :
  Exceeds symbol left right
    ↔ ∃ a b, left.toNumber? = some a ∧ right.toNumber? = some b
      ∧ (rule.operator.zeroDivisor?.isSome → b.isZero = false) ∧ rule.operator.overflows a b
  := by
  constructor
  · rintro ⟨_, a, b, found', h⟩
    rw [found] at found'
    obtain rfl := Option.some.inj found'
    exact ⟨a, b, h⟩
  · rintro ⟨a, b, h⟩
    exact ⟨rule, a, b, found, h⟩

end

/-- An operation on two quantities for which there is a rule. -/
theorem outcome_quantities
    {symbol : String} {rule : Rule} {l l' : Option Location} {m m' : Measure} {a b : Number}
    (found : Rule.find? m.kind symbol m'.kind = some rule) (arithmetic : rule.shape.isArithmetic) :
  Outcome symbol (.quantity l m a) (.quantity l' m' b)
    (rule.apply (.quantity l m a) (.quantity l' m' b))
  := by
  have divides := @dividesByZero_iff symbol (.quantity l m a) (.quantity l' m' b) rule found
  have exceeds := @exceeds_iff symbol (.quantity l m a) (.quantity l' m' b) rule found
  obtain ⟨rfl, -⟩ := Rule.find?_eq_some_iff.mp found
  by_cases refused : rule.operator.zeroDivisor?.isSome ∧ b.isZero
  · obtain ⟨isSome, zero⟩ := refused
    obtain ⟨code, divisor⟩ := Option.isSome_iff_exists.mp isSome
    rw [@Rule.apply_of_isZero rule code _ (.quantity l' m' b) divisor zero]
    apply Outcome.zeroDivisor
    exact (divides code).mpr ⟨divisor, b, rfl, zero⟩
  · have divisor : rule.operator.zeroDivisor?.isSome → b.isZero = false := by
      intro isSome
      apply Bool.eq_false_of_not_eq_true
      intro zero
      apply refused ⟨isSome, zero⟩
    have settled := rule.operator.settles_onNumbers a b divisor
    rw [Rule.apply_eq_combine divisor, Rule.combine_quantities arithmetic]
    generalize rule.operator.onNumbers a b = r at settled
    generalize overflows : rule.operator.overflows a b = o at settled
    cases settled with
    | overflow =>
        apply Outcome.overflow
        exact exceeds.mpr ⟨a, b, rfl, rfl, divisor, overflows⟩
    | result x =>
        apply Outcome.result
        · exact Option.isSome_of_eq_some found
        · intro code
          rw [divides]
          rintro ⟨isSome, _, ⟨⟩, zero⟩
          apply refused ⟨Option.isSome_of_eq_some isSome, zero⟩
        · rw [exceeds]
          rintro ⟨_, _, ⟨⟩, ⟨⟩, -, above⟩
          rw [overflows] at above
          cases above

/-- Performing an operation ends in one of the four ways. -/
theorem perform_outcome (symbol : String) (left right : Node) :
  Outcome symbol left right (perform symbol left right)
  := by
  rw [perform]
  cases found : Rule.find? left.kind symbol right.kind with
  | none => apply Outcome.unsupported found
  | some rule =>
      rcases Rule.quantities_or_joined (Rule.fits_of_find? found) with
        ⟨arithmetic, l, m, a, l', m', b, rfl, rfl⟩ | ⟨add, unmeasured, n, e⟩
      · apply outcome_quantities found arithmetic
      · have divisor : rule.operator.zeroDivisor? = none := by rw [add]; rfl
        simp only
        rw [Rule.apply_eq_combine (by rw [divisor]; rintro ⟨⟩), e]
        apply Outcome.result
        · exact Option.isSome_of_eq_some found
        · intro code
          rw [dividesByZero_iff found, divisor]
          rintro ⟨⟨⟩, -⟩
        · rw [exceeds_iff found]
          rintro ⟨a, b, amount, amount', -⟩
          rcases unmeasured with none | none
          · rw [none] at amount
            cases amount
          · rw [none] at amount'
            cases amount'

/-! ### Overflow -/

/-- An operation that exceeds the finite range does not divide by zero. -/
theorem not_dividesByZero_of_exceeds
    {symbol : String} {left right : Node} (exceeds : Exceeds symbol left right) (code : ErrorCode) :
  ¬ DividesByZero symbol left right code
  := by
  obtain ⟨rule, a, b, found, -, amount, divisor, -⟩ := exceeds
  rw [dividesByZero_iff found]
  rintro ⟨divides, b', amount', zero⟩
  rw [amount] at amount'
  obtain rfl := Option.some.inj amount'
  rw [divisor (Option.isSome_of_eq_some divides)] at zero
  cases zero

theorem perform_eq_overflow_iff (symbol : String) (left right : Node) :
  perform symbol left right = .error (.arithmetic .overflow) ↔ Exceeds symbol left right
  := by
  have outcome := perform_outcome symbol left right
  constructor
  · intro failed
    rw [failed] at outcome
    cases outcome with
    | overflow exceeds => exact exceeds
  · intro exceeds
    generalize perform symbol left right = r at outcome
    cases outcome with
    | unsupported missing =>
        obtain ⟨rule, _, _, found, -⟩ := exceeds
        rw [missing] at found
        cases found
    | zeroDivisor divides => exact absurd divides (not_dividesByZero_of_exceeds exceeds _)
    | overflow => rfl
    | result _ _ _ within => exact absurd exceeds within

/-- An operation has a result or finds a mistake of the style sheet, unless it takes an amount out
of the finite range. -/
theorem perform_answers_or_overflows (symbol : String) (left right : Node) :
  (Exceeds symbol left right ∧ perform symbol left right = .error (.arithmetic .overflow))
    ∨ (¬ Exceeds symbol left right
      ∧ ((∃ n, perform symbol left right = .ok n)
        ∨ ∃ e, perform symbol left right = .error (.operation e)))
  := by
  by_cases exceeds : Exceeds symbol left right
  · left
    exact ⟨exceeds, (perform_eq_overflow_iff symbol left right).mpr exceeds⟩
  · right
    use exceeds
    have outcome := perform_outcome symbol left right
    generalize perform symbol left right = r at outcome
    cases outcome with
    | unsupported => exact Or.inr ⟨_, rfl⟩
    | zeroDivisor => exact Or.inr ⟨_, rfl⟩
    | overflow exceeds' => exact absurd exceeds' exceeds
    | result n => exact Or.inl ⟨n, rfl⟩

/-- A large whole number cannot be added to a floating-point number. -/
theorem not_forall_perform_answers :
  ¬ ∀ (symbol : String) (left right : Node),
    (∃ n, perform symbol left right = .ok n)
      ∨ ∃ e, perform symbol left right = .error (.operation e)
  := by
  intro answers
  have large : (Number.int (.ofNat (10 ^ 400))).isTooLarge := by
    rw [Number.isTooLarge, Binary64.overflowBound]
    decide +kernel
  have exceeds : Exceeds "+" (.quantity none .plain (.int (.ofNat (10 ^ 400))))
      (.quantity none .plain (.float (.ofBits 0x3ff8000000000000))) := by
    refine ⟨⟨.add, .ontoLeft⟩, _, _, rfl, rfl, rfl, ?_, ?_⟩
    · rintro ⟨⟩
    · rw [Operator.overflows, Number.roundingOverflows, large]
      rfl
  have overflow := (perform_eq_overflow_iff _ _ _).mpr exceeds
  rcases answers "+" (.quantity none .plain (.int (.ofNat (10 ^ 400))))
    (.quantity none .plain (.float (.ofBits 0x3ff8000000000000))) with ⟨n, result⟩ | ⟨e, mistake⟩
  · rw [overflow] at result
    cases result
  · rw [overflow] at mistake
    cases mistake

/-! ### Mistakes of the style sheet -/

/-- No two operators divide by zero in the same way. -/
theorem Operator.eq_of_zeroDivisor? {operator operator' : Operator} {code : ErrorCode}
    (h : operator.zeroDivisor? = some code) (h' : operator'.zeroDivisor? = some code) :
  operator = operator'
  := by
  cases operator <;> cases h <;> cases operator' <;> cases h' <;> rfl

/-- A supported operation divides by zero when it has the symbol of an operator that divides and its
right operand is equal to zero. -/
theorem dividesByZero_iff_symbol
    {operator : Operator} {code : ErrorCode} (h : operator.zeroDivisor? = some code)
    (symbol : String) (left right : Node) :
  DividesByZero symbol left right code
    ↔ symbol = operator.symbol ∧ (Rule.find? left.kind symbol right.kind).isSome
      ∧ ∃ x, right.toNumber? = some x ∧ x.equals (.int 0)
  := by
  constructor
  · rintro ⟨rule, x, found, divides, amount, zero⟩
    obtain rfl := Operator.eq_of_zeroDivisor? h divides
    rw [← Number.equals_int_zero] at zero
    exact ⟨(Rule.find?_eq_some_iff.mp found).1, Option.isSome_of_eq_some found, x, amount, zero⟩
  · rintro ⟨rfl, isSome, x, amount, zero⟩
    obtain ⟨rule, found⟩ := Option.isSome_iff_exists.mp isSome
    have same := (Rule.find?_eq_some_iff.mp found).1
    rw [Number.equals_int_zero] at zero
    refine ⟨rule, x, found, ?_, amount, zero⟩
    rw [← h]
    congr 1
    apply Option.some.inj
    rw [← Operator.ofSymbol?_symbol, ← same, Operator.ofSymbol?_symbol]

theorem perform_of_dividesByZero
    {symbol : String} {left right : Node} {code : ErrorCode}
    (h : DividesByZero symbol left right code) :
  perform symbol left right = .error (.operation ⟨code, .of symbol left right, right.loc⟩)
  := by
  obtain ⟨rule, b, found, divides, amount, zero⟩ := h
  have payload : right.payload?.any Payload.isZero = true := by
    cases right <;> cases amount
    apply zero
  rw [perform, found, (Rule.find?_eq_some_iff.mp found).1]
  apply Rule.apply_of_isZero divides payload

/-- A zero divisor is reported exactly when the operation divides by zero. -/
theorem perform_code_iff_dividesByZero
    {code : ErrorCode} (h : code ≠ .unsupportedOperation) (symbol : String) (left right : Node) :
  (∃ e, perform symbol left right = .error (.operation e) ∧ e.code = code)
    ↔ DividesByZero symbol left right code
  := by
  constructor
  · rintro ⟨e, failed, rfl⟩
    have outcome := perform_outcome symbol left right
    rw [failed] at outcome
    cases outcome with
    | unsupported => exact absurd rfl h
    | zeroDivisor divides => exact divides
  · intro divides
    exact ⟨_, perform_of_dividesByZero divides, rfl⟩

/-- An operation is reported as unsupported exactly when there is no rule for it. -/
theorem perform_unsupported_iff (symbol : String) (left right : Node) :
  (∃ e, perform symbol left right = .error (.operation e) ∧ e.code = .unsupportedOperation)
    ↔ Rule.find? left.kind symbol right.kind = none
  := by
  constructor
  · rintro ⟨e, failed, unsupported⟩
    have outcome := perform_outcome symbol left right
    rw [failed] at outcome
    cases outcome with
    | unsupported missing => exact missing
    | zeroDivisor divides =>
        obtain ⟨⟨operator, shape⟩, b, -, divides, -⟩ := divides
        cases unsupported
        cases operator <;> cases divides
  · intro missing
    rw [perform, missing]
    exact ⟨_, rfl, rfl⟩

/-- A mistake names the operation, and blames the left operand if there is no rule for it and the
right one if it divides by zero. -/
theorem perform_blames
    {symbol : String} {left right : Node} {e : OperationError}
    (failed : perform symbol left right = .error (.operation e)) :
  e.operation = ⟨symbol, left.kind, right.kind⟩
    ∧ e.loc = if e.code = .unsupportedOperation then left.loc else right.loc
  := by
  have outcome := perform_outcome symbol left right
  rw [failed] at outcome
  cases outcome with
  | unsupported => exact ⟨rfl, rfl⟩
  | zeroDivisor divides =>
      obtain ⟨⟨operator, shape⟩, b, -, divides, -⟩ := divides
      use rfl
      cases operator <;> cases divides <;> rfl

/-- Which operations are reported, under which code and with which operand to blame.  Once its
divisor has been looked at, no division is without a value. -/
theorem perform_mistakes (symbol : String) (left right : Node) :
  ((∃ e, perform symbol left right = .error (.operation e) ∧ e.code = .unsupportedOperation)
      ↔ Rule.find? left.kind symbol right.kind = none)
    ∧ ((∃ e, perform symbol left right = .error (.operation e) ∧ e.code = .divideByZero)
      ↔ symbol = "/" ∧ (Rule.find? left.kind symbol right.kind).isSome
        ∧ ∃ x, right.toNumber? = some x ∧ x.equals (.int 0))
    ∧ ((∃ e, perform symbol left right = .error (.operation e) ∧ e.code = .moduloByZero)
      ↔ symbol = "%" ∧ (Rule.find? left.kind symbol right.kind).isSome
        ∧ ∃ x, right.toNumber? = some x ∧ x.equals (.int 0))
    ∧ (∀ e, perform symbol left right = .error (.operation e) →
      e.operation = ⟨symbol, left.kind, right.kind⟩
        ∧ e.loc = if e.code = .unsupportedOperation then left.loc else right.loc)
    ∧ perform symbol left right ≠ .error (.arithmetic .zeroDivisor)
  := by
  refine ⟨perform_unsupported_iff symbol left right, ?_, ?_, fun e => perform_blames, ?_⟩
  · rw [perform_code_iff_dividesByZero (by decide)]
    apply @dividesByZero_iff_symbol .divide _ rfl
  · rw [perform_code_iff_dividesByZero (by decide)]
    apply @dividesByZero_iff_symbol .modulo _ rfl
  · intro failed
    have outcome := perform_outcome symbol left right
    rw [failed] at outcome
    cases outcome

end StyleValue
