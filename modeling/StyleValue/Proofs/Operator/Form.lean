import StyleValue.Proofs.Number.Form
import StyleValue.Proofs.Number.ShortText
import StyleValue.Proofs.Operator.Rules

/-!
# Operations on the forms of an amount

A whole amount may be stored as a whole number or as a floating-point number of the same value.  In
the exact range no operation depends on this choice (`perform_restored`): the rule that applies, the
test for a zero divisor and the texts of amounts are the same, and the results of arithmetic are
equal.
-/

namespace StyleValue

namespace Node

/-! ### Nodes up to the form of an amount -/

/-- Nodes that are the same but for the form of an amount.  Neither amount being a number counts as
the same. -/
inductive Agrees : Node → Node → Prop where
  | refl (n : Node) : Agrees n n
  | quantity {loc measure a b} (same : a.equals b ∨ a.isNaN ∧ b.isNaN) :
      Agrees (.quantity loc measure a) (.quantity loc measure b)

theorem agrees_quantity
    {loc : Option Location} {measure : Measure} {a b : Number} (h : a.position? = b.position?) :
  (quantity loc measure a).Agrees (.quantity loc measure b)
  := .quantity (Number.position?_eq_iff.mp h)

namespace Agrees

variable {n n' : Node} (h : n.Agrees n')

include h

theorem kind_eq :
  n'.kind = n.kind
  := by
  cases h <;> rfl

theorem loc_eq :
  n'.loc = n.loc
  := by
  cases h <;> rfl

/-- Only the amounts can differ, and they lie at one place. -/
theorem exists_amount {loc : Option Location} {measure : Measure} {a : Number}
    (written : n = .quantity loc measure a) :
  ∃ a', n' = .quantity loc measure a' ∧ a.position? = a'.position?
  := by
  cases h with
  | refl => exact ⟨a, written, rfl⟩
  | quantity same =>
      cases written
      exact ⟨_, rfl, Number.position?_eq_iff.mpr same⟩

theorem eq_text {loc : Option Location} {role : TextRole} {content : String}
    (written : n = .text loc role content) :
  n' = .text loc role content
  := by
  cases h with
  | refl => exact written
  | quantity => cases written

theorem isZero_eq :
  n'.payload?.any Payload.isZero = n.payload?.any Payload.isZero
  := by
  cases h with
  | refl => rfl
  | quantity same => exact (Number.isZero_eq_of_position? (Number.position?_eq_iff.mpr same)).symm

/-- Payloads are written in the same way. -/
theorem render_eq {p : Payload} (payload : n.payload? = some p) :
  ∃ p', n'.payload? = some p' ∧ p'.render = p.render
  := by
  cases h with
  | refl => exact ⟨p, payload, rfl⟩
  | quantity same =>
      cases payload
      refine ⟨_, rfl, ?_⟩
      exact (Number.shortText_eq_of_position? (Number.position?_eq_iff.mpr same)).symm

end Agrees

end Node

/-- The whole amounts of an operation are at most 2⁵³ on either side of zero, and so is the sum,
difference or product of two of them where the operation asks for it. -/
structure InExactRange (symbol : String) (left right : Node) : Prop where
  ofLeft (a : Number) (amount : left.toNumber? = some a) : a.IsExact
  ofRight (b : Number) (amount : right.toNumber? = some b) : b.IsExact
  ofResult (operator : Operator) (named : symbol = operator.symbol) (a b : Number)
    (amount : left.toNumber? = some a) (amount' : right.toNumber? = some b) : operator.IsExact a b

/-! ### Operations on agreeing nodes -/

theorem Shape.agrees_quantity
    (shape : Shape) (l : Option Location) (m : Measure) (l' : Option Location) (m' : Measure)
    {r r' : Number} (h : r.position? = r'.position?) :
  (shape.quantity l m l' m' r).Agrees (shape.quantity l m l' m' r')
  := by
  cases shape <;> exact Node.agrees_quantity h

section

variable {left left' right right' : Node} (hleft : left.Agrees left') (hright : right.Agrees right')

include hleft hright

/-- A rule has agreeing results on agreeing operands. -/
theorem Rule.combine_agrees {rule : Rule} (fits : rule.Fits left right)
    (exact : InExactRange rule.operator.symbol left right)
    (exact' : InExactRange rule.operator.symbol left' right')
    (divisor : rule.operator.zeroDivisor?.isSome → right.payload?.any Payload.isZero = false) :
  ∃ n n', rule.combine left right = .ok n ∧ rule.combine left' right' = .ok n' ∧ n.Agrees n'
  := by
  cases fits with
  | quantities arithmetic =>
      obtain ⟨a', rfl, ha⟩ := hleft.exists_amount rfl
      obtain ⟨b', rfl, hb⟩ := hright.exists_amount rfl
      obtain ⟨r, r', value, value', place⟩ := Operator.onNumbers_congr _ ha hb
        (exact.ofLeft _ rfl) (exact'.ofLeft _ rfl) (exact.ofRight _ rfl) (exact'.ofRight _ rfl)
        (exact.ofResult _ rfl _ _ rfl rfl) (exact'.ofResult _ rfl _ _ rfl rfl) divisor
      rw [combine_quantities arithmetic, combine_quantities arithmetic, value, value']
      exact ⟨_, _, rfl, rfl, Shape.agrees_quantity _ _ _ _ _ place⟩
  | behindText word plain =>
      obtain rfl := hleft.eq_text rfl
      obtain ⟨p, payload⟩ := Node.payload?_of_isPlain plain
      obtain ⟨p', payload', written⟩ := hright.render_eq payload
      refine ⟨_, _, combine_behindText payload, combine_behindText payload', ?_⟩
      rw [written]
      apply Node.Agrees.refl
  | beforeText plain word =>
      obtain rfl := hright.eq_text rfl
      obtain ⟨p, payload⟩ := Node.payload?_of_isPlain plain
      obtain ⟨p', payload', written⟩ := hleft.render_eq payload
      refine ⟨_, _, combine_beforeText payload, combine_beforeText payload', ?_⟩
      rw [written]
      apply Node.Agrees.refl
  | unit =>
      obtain ⟨a', rfl, ha⟩ := hleft.exists_amount rfl
      obtain rfl := hright.eq_text rfl
      exact ⟨_, _, rfl, rfl, Node.agrees_quantity ha⟩
  | quantityBehind word measured =>
      obtain rfl := hleft.eq_text rfl
      obtain ⟨a', rfl, ha⟩ := hright.exists_amount rfl
      refine ⟨_, _, rfl, rfl, ?_⟩
      rw [Node.quantityText, Node.quantityText, Number.shortText_eq_of_position? ha]
      apply Node.Agrees.refl
  | quantityBefore measured word =>
      obtain ⟨a', rfl, ha⟩ := hleft.exists_amount rfl
      obtain rfl := hright.eq_text rfl
      refine ⟨_, _, rfl, rfl, ?_⟩
      rw [Node.quantityText, Node.quantityText, Number.shortText_eq_of_position? ha]
      apply Node.Agrees.refl

/-- Operations on agreeing operands have agreeing results, or the same mistake is found in both. -/
theorem perform_agrees {symbol : String} (exact : InExactRange symbol left right)
    (exact' : InExactRange symbol left' right') :
  (∃ n n', perform symbol left right = .ok n ∧ perform symbol left' right' = .ok n' ∧ n.Agrees n')
    ∨ ∃ e, perform symbol left right = .error (.operation e)
      ∧ perform symbol left' right' = .error (.operation e)
  := by
  have operation : Operation.of symbol left' right' = .of symbol left right := by
    rw [Operation.of, hleft.kind_eq, hright.kind_eq, Operation.of]
  cases found : Rule.find? left.kind symbol right.kind with
  | none =>
      right
      refine ⟨⟨.unsupportedOperation, .of symbol left right, left.loc⟩, ?_, ?_⟩
      · rw [perform, found]
      · rw [perform, hleft.kind_eq, hright.kind_eq, found, operation, hleft.loc_eq]
  | some rule =>
      have fits := Rule.fits_of_find? found
      obtain ⟨rfl, -⟩ := Rule.find?_eq_some_iff.mp found
      rw [perform, perform, hleft.kind_eq, hright.kind_eq, found]
      by_cases zero : rule.operator.zeroDivisor?.isSome ∧ right.payload?.any Payload.isZero
      · obtain ⟨code, divides⟩ := Option.isSome_iff_exists.mp zero.1
        right
        refine ⟨_, Rule.apply_of_isZero divides zero.2, ?_⟩
        have zero' := hright.isZero_eq.trans zero.2
        apply Eq.trans (Rule.apply_of_isZero divides zero')
        rw [operation, hright.loc_eq]
      · have divisor (divides : rule.operator.zeroDivisor?.isSome) :
            right.payload?.any Payload.isZero = false :=
          Bool.eq_false_of_not_eq_true fun h => zero ⟨divides, h⟩
        have divisor' (divides : rule.operator.zeroDivisor?.isSome) :=
          hright.isZero_eq.trans (divisor divides)
        left
        simp only [Rule.apply_eq_combine divisor, Rule.apply_eq_combine divisor']
        exact Rule.combine_agrees hleft hright fits exact exact' divisor

end

/-! ### Stored amounts -/

/-- The node, or the quantity with its whole amount stored as a floating-point number. -/
inductive Node.Restored : Node → Node → Prop where
  | refl (n : Node) : Restored n n
  | float {loc measure n x} (value : x.toInt? = some n) :
      Restored (.quantity loc measure (.int n)) (.quantity loc measure (.float x))

theorem Node.Restored.agrees {n n' : Node} (h : n.Restored n') :
  n.Agrees n'
  := by
  cases h with
  | refl => apply Agrees.refl
  | float value =>
      apply agrees_quantity
      exact (Binary64.toInt?_eq_some_iff.mp value).symm

/-- An amount is stored as it is, or as a floating-point number. -/
theorem Node.Restored.exists_amount {n n' : Node} (h : n.Restored n') {a' : Number}
    (amount : n'.toNumber? = some a') :
  (∃ x, a' = .float x) ∨ n.toNumber? = some a'
  := by
  cases h with
  | refl => exact Or.inr amount
  | float value =>
      cases amount
      exact Or.inl ⟨_, rfl⟩

theorem Operator.isExact_float_left (operator : Operator) (x : Binary64) (b : Number) :
  operator.IsExact (.float x) b
  := by
  cases operator <;> trivial

theorem Operator.isExact_float_right (operator : Operator) (a : Number) (y : Binary64) :
  operator.IsExact a (.float y)
  := by
  cases operator <;> cases a <;> trivial

/-- Storing amounts as floating-point numbers does not leave the exact range. -/
theorem InExactRange.restored {symbol : String} {left left' right right' : Node}
    (exact : InExactRange symbol left right) (hleft : left.Restored left')
    (hright : right.Restored right') :
  InExactRange symbol left' right'
  where
  ofLeft a amount := by
    rcases hleft.exists_amount amount with ⟨x, rfl⟩ | kept
    · trivial
    · exact exact.ofLeft a kept
  ofRight b amount := by
    rcases hright.exists_amount amount with ⟨y, rfl⟩ | kept
    · trivial
    · exact exact.ofRight b kept
  ofResult operator named a b amount amount' := by
    rcases hleft.exists_amount amount with ⟨x, rfl⟩ | kept
    · apply Operator.isExact_float_left
    · rcases hright.exists_amount amount' with ⟨y, rfl⟩ | kept'
      · apply Operator.isExact_float_right
      · exact exact.ofResult operator named a b kept kept'

/-- In the exact range, whole amounts may be stored as floating-point numbers: the results are the
same but for the form of an amount, or the same mistake is found. -/
theorem perform_restored
    {symbol : String} {left left' right right' : Node} (exact : InExactRange symbol left right)
    (hleft : left.Restored left') (hright : right.Restored right') :
  (∃ n n', perform symbol left right = .ok n ∧ perform symbol left' right' = .ok n' ∧ n.Agrees n')
    ∨ ∃ e, perform symbol left right = .error (.operation e)
      ∧ perform symbol left' right' = .error (.operation e)
  := perform_agrees hleft.agrees hright.agrees exact (exact.restored hleft hright)

/-- A remainder without rest, which has no sign in whole numbers. -/
theorem perform_restored_zero_remainder :
  InExactRange "%" (.quantity none (.unit (.named "px")) (.int (-6)))
      (.quantity none .plain (.int 3))
    ∧ ∃ n, perform "%" (.quantity none (.unit (.named "px")) (.float (.ofBits 0xc018000000000000)))
        (.quantity none .plain (.float (.ofBits 0x4008000000000000))) = .ok n
      ∧ (Node.quantity none (.unit (.named "px")) (.int 0)).Agrees n
  := by
  have exact : InExactRange "%" (.quantity none (.unit (.named "px")) (.int (-6)))
      (.quantity none .plain (.int 3)) := by
    constructor
    · rintro _ ⟨⟩
      decide
    · rintro _ ⟨⟩
      decide
    · intro operator named _ _ amount amount'
      cases Operator.ofSymbol?_eq_some_iff.mpr named
      trivial
  have whole : perform "%" (.quantity none (.unit (.named "px")) (.int (-6)))
      (.quantity none .plain (.int 3)) = .ok (.quantity none (.unit (.named "px")) (.int 0)) := rfl
  use exact
  rcases perform_restored exact
    (.float (x := .ofBits 0xc018000000000000) (by decide +kernel))
    (.float (x := .ofBits 0x4008000000000000) (by decide +kernel)) with
    ⟨n, n', value, value', agrees⟩ | ⟨e, mistake, -⟩
  · rw [whole] at value
    cases value
    exact ⟨n', value', agrees⟩
  · rw [whole] at mistake
    cases mistake

end StyleValue
