import Mathlib.Data.List.Find
import StyleValue.Proofs.Operator.Expression
import StyleValue.Proofs.Operator.Rules

/-!
# Formulas of whole quantities

A `Formula` is built with sums, differences and products from quantities with whole amounts.  It is
*supported* when it does not mix percentages with dimensions and has no product of two *measured*
formulas, ones in which a percentage or a dimension occurs.

A supported formula has the amount that it has in whole numbers as its value, and takes location and
measure from its leader for being measured.  This is the invariant of the evaluation,
`Formula.evaluate_lead`; `Formula.lead_measure` tells what the measure is without speaking of the
leader.
-/

namespace StyleValue

/-- The kinds of percentages and dimensions. -/
def Kind.isMeasured : Kind → Bool
  | .percentage => true
  | .dimension => true
  | _ => false

namespace Kind

theorem isMeasured_iff {kind : Kind} :
  kind.isMeasured ↔ kind = .percentage ∨ kind = .dimension
  := by
  cases kind <;> decide

/-- Two measured kinds are the same or a percentage beside a dimension. -/
theorem eq_or_mixed {kind kind' : Kind} (h : kind.isMeasured) (h' : kind'.isMeasured) :
  kind = kind' ∨ (kind = .percentage ∧ kind' = .dimension)
    ∨ (kind = .dimension ∧ kind' = .percentage)
  := by
  rcases isMeasured_iff.mp h with rfl | rfl <;> rcases isMeasured_iff.mp h' with rfl | rfl <;> simp

end Kind

/-! ### Operations on whole amounts -/

/-- The operators that do not lead out of the whole numbers. -/
inductive RingOperator where
  | add
  | subtract
  | multiply
  deriving DecidableEq

namespace RingOperator

def operator : RingOperator → Operator
  | add => .add
  | subtract => .subtract
  | multiply => .multiply

def onInt : RingOperator → Int → Int → Int
  | add => (· + ·)
  | subtract => (· - ·)
  | multiply => (· * ·)

/-- The kinds of quantities that may stand beside each other. -/
def accepts (operator : RingOperator) (left right : Kind) : Prop :=
  left.isMeasured → right.isMeasured → operator ≠ multiply ∧ left = right

instance (operator : RingOperator) (left right : Kind) : Decidable (operator.accepts left right) :=
  inferInstanceAs (Decidable (_ → _ → _))

/-- The table has a rule for two quantities that may stand beside each other, and for no others. -/
theorem shape?_eq (operator : RingOperator) (m m' : Measure) :
  Rule.shape? operator.operator m.kind m'.kind
    = if operator.accepts m.kind m'.kind then
        some (if m'.kind.isMeasured ∧ ¬ m.kind.isMeasured then .ontoRight else .ontoLeft)
      else
        none
  := by
  cases operator <;> cases m <;> cases m' <;> rfl

theorem zeroDivisor?_operator (operator : RingOperator) :
  operator.operator.zeroDivisor? = none
  := by
  cases operator <;> rfl

/-- A rule on two whole quantities computes with their amounts. -/
theorem apply_int
    (operator : RingOperator) {shape : Shape} (arithmetic : shape.isArithmetic)
    (l l' : Option Location) (m m' : Measure) (a b : Int) :
  Rule.apply ⟨operator.operator, shape⟩ (.quantity l m (.int a)) (.quantity l' m' (.int b))
    = .ok (shape.quantity l m l' m' (.int (operator.onInt a b)))
  := by
  have divisor := operator.zeroDivisor?_operator
  have whole : operator.operator.onNumbers (.int a) (.int b) = .ok (.int (operator.onInt a b)) := by
    cases operator <;> rfl
  rw [Rule.apply_eq_combine (by rw [divisor]; rintro ⟨⟩), Rule.combine_quantities arithmetic, whole]

end RingOperator

/-- A quantity with a whole amount. -/
structure WholeQuantity where
  loc : Option Location
  measure : Measure
  amount : Int

namespace WholeQuantity

def kind (q : WholeQuantity) : Kind := q.measure.kind

def isMeasured (q : WholeQuantity) : Bool := q.kind.isMeasured

/-- The quantity with another amount, as a node. -/
def withAmount (q : WholeQuantity) (amount : Int) : Node := .quantity q.loc q.measure (.int amount)

def node (q : WholeQuantity) : Node := q.withAmount q.amount

/-- Of two quantities the left one, unless only the right one is measured. -/
def leading (p q : WholeQuantity) : WholeQuantity :=
  if q.isMeasured ∧ ¬ p.isMeasured then q else p

/-- Performing an operation on two whole quantities gives the leading one another amount. -/
theorem perform_withAmount (operator : RingOperator) (p q : WholeQuantity) (a b : Int) :
  perform operator.operator.symbol (p.withAmount a) (q.withAmount b)
    = if operator.accepts p.kind q.kind then
        .ok ((p.leading q).withAmount (operator.onInt a b))
      else
        .error (.operation
          ⟨.unsupportedOperation, ⟨operator.operator.symbol, p.kind, q.kind⟩, p.loc⟩)
  := by
  have listed : Rule.shape? operator.operator (p.withAmount a).kind (q.withAmount b).kind
      = if operator.accepts p.kind q.kind then
          some (if q.isMeasured ∧ ¬ p.isMeasured then .ontoRight else .ontoLeft)
        else
          none :=
    operator.shape?_eq p.measure q.measure
  rw [perform_symbol, listed]
  by_cases accepts : operator.accepts p.kind q.kind
  · rw [if_pos accepts, if_pos accepts, leading]
    by_cases only : q.isMeasured ∧ ¬ p.isMeasured
    · rw [if_pos only, if_pos only]
      apply operator.apply_int rfl
    · rw [if_neg only, if_neg only]
      apply operator.apply_int rfl
  · rw [if_neg accepts, if_neg accepts]
    rfl

end WholeQuantity

/-! ### Formulas -/

/-- Sums, differences and products of whole quantities. -/
abbrev Formula : Type := Expression RingOperator WholeQuantity

namespace Formula

/-- The value of a formula, found operation by operation. -/
def evaluate (e : Formula) : Except Failure Node :=
  e.eval (fun operator => operator.operator.symbol) WholeQuantity.node

/-- The value of a formula in whole numbers. -/
def amount : Formula → Int
  | .leaf q => q.amount
  | .operation operator left right => operator.onInt (amount left) (amount right)

/-- A leaf of the given kind occurs. -/
def Has (kind : Kind) (e : Formula) : Prop := ∃ q ∈ e.leaves, q.kind = kind

/-- A percentage or a dimension occurs. -/
def Measured (e : Formula) : Prop := ∃ q ∈ e.leaves, q.isMeasured

/-- Both a percentage and a dimension occur. -/
def Mixed (e : Formula) : Prop := Has .percentage e ∧ Has .dimension e

/-- No product of two measured formulas occurs. -/
def Linear (e : Formula) : Prop :=
  ∀ left right, .operation .multiply left right ∈ e.subexpressions →
    ¬ (Measured left ∧ Measured right)

/-- Neither percentages beside dimensions nor products of measured formulas occur. -/
structure Supported (e : Formula) : Prop where
  unmixed : ¬ Mixed e
  linear : Linear e

/-- The leftmost percentage or dimension, or else the leftmost leaf. -/
def lead (e : Formula) : WholeQuantity := e.leader WholeQuantity.isMeasured

/-- Hundredths if a percentage occurs, or else the unit of the leftmost dimension, if any. -/
def measure (e : Formula) : Measure :=
  if e.leaves.any (·.kind = .percentage) then
    .percent
  else
    (e.leaves.find? (·.kind = .dimension)).elim .plain WholeQuantity.measure

/-! ### What can be told from the leader -/

theorem measured_iff (e : Formula) :
  Measured e ↔ (lead e).isMeasured
  := (e.leader_iff WholeQuantity.isMeasured).symm

/-- Where percentages and dimensions are not mixed, the leader has the kind of every measured
leaf. -/
theorem has_iff {e : Formula} (h : ¬ Mixed e) {kind : Kind} (measured : kind.isMeasured) :
  Has kind e ↔ (lead e).kind = kind
  := by
  have mem : lead e ∈ e.leaves := e.leader_mem_leaves WholeQuantity.isMeasured
  constructor
  · rintro ⟨q, mem', rfl⟩
    have measured' : (lead e).isMeasured := (measured_iff e).mp ⟨q, mem', measured⟩
    rcases Kind.eq_or_mixed measured' measured with same | ⟨kind, kind'⟩ | ⟨kind, kind'⟩
    · exact same
    · exact absurd ⟨⟨lead e, mem, kind⟩, ⟨q, mem', kind'⟩⟩ h
    · exact absurd ⟨⟨q, mem', kind'⟩, ⟨lead e, mem, kind⟩⟩ h
  · rintro rfl
    exact ⟨lead e, mem, rfl⟩

theorem lead_measure {e : Formula} (h : ¬ Mixed e) :
  (lead e).measure = measure e
  := by
  rw [measure]
  by_cases percentage : Has .percentage e
  · have kind : (lead e).measure.kind = .percentage := (has_iff h rfl).mp percentage
    rw [if_pos (by simpa [Has] using percentage)]
    cases counted : (lead e).measure <;> rw [counted] at kind <;> cases kind
  · have same : e.leaves.find? (·.kind = .dimension)
        = e.leaves.find? WholeQuantity.isMeasured := by
      apply List.find?_congr
      intro q mem
      have other : q.kind ≠ .percentage := fun kind => percentage ⟨q, mem, kind⟩
      rw [WholeQuantity.isMeasured, Bool.eq_iff_iff, Kind.isMeasured_iff, decide_eq_true_eq]
      simp [other]
    rw [if_neg (by simpa [Has] using percentage), same]
    rcases e.leader_cases WholeQuantity.isMeasured with ⟨-, found⟩ | ⟨plain, found, -⟩
    · rw [found]
      rfl
    · rw [found]
      change (lead e).measure.kind.isMeasured = false at plain
      cases counted : (lead e).measure <;> rw [counted] at plain <;> cases plain
      rfl

/-! ### Operations on formulas -/

section

variable (operator : RingOperator) (left right : Formula)

theorem lead_operation :
  lead (.operation operator left right) = (lead left).leading (lead right)
  := left.leader_operation WholeQuantity.isMeasured operator right

theorem has_operation (kind : Kind) :
  Has kind (.operation operator left right) ↔ Has kind left ∨ Has kind right
  := by
  simp [Has, Expression.leaves, or_and_right, exists_or]

theorem mixed_operation_iff {left right : Formula} (h : ¬ Mixed left) (h' : ¬ Mixed right) :
  Mixed (.operation operator left right)
    ↔ (lead left).isMeasured ∧ (lead right).isMeasured ∧ (lead left).kind ≠ (lead right).kind
  := by
  rw [Mixed, has_operation, has_operation]
  constructor
  · rintro ⟨percentage | percentage, dimension | dimension⟩
    · exact absurd ⟨percentage, dimension⟩ h
    · rw [has_iff h rfl] at percentage
      rw [has_iff h' rfl] at dimension
      rw [WholeQuantity.isMeasured, WholeQuantity.isMeasured, percentage, dimension]
      decide
    · rw [has_iff h' rfl] at percentage
      rw [has_iff h rfl] at dimension
      rw [WholeQuantity.isMeasured, WholeQuantity.isMeasured, percentage, dimension]
      decide
    · exact absurd ⟨percentage, dimension⟩ h'
  · rintro ⟨measured, measured', different⟩
    have has := (has_iff h measured).mpr rfl
    have has' := (has_iff h' measured').mpr rfl
    rcases Kind.eq_or_mixed measured measured' with same | ⟨kind, kind'⟩ | ⟨kind, kind'⟩
    · exact absurd same different
    · exact ⟨Or.inl (kind ▸ has), Or.inr (kind' ▸ has')⟩
    · exact ⟨Or.inr (kind' ▸ has'), Or.inl (kind ▸ has)⟩

theorem linear_operation_iff :
  Linear (.operation operator left right)
    ↔ Linear left ∧ Linear right ∧ (operator = .multiply → ¬ (Measured left ∧ Measured right))
  := by
  constructor
  · intro linear
    refine ⟨?_, ?_, ?_⟩
    · intro l r mem
      apply linear
      simp [Expression.subexpressions, mem]
    · intro l r mem
      apply linear
      simp [Expression.subexpressions, mem]
    · rintro rfl
      apply linear
      simp [Expression.subexpressions]
  · rintro ⟨linear, linear', top⟩ l r mem
    simp only [Expression.subexpressions, List.mem_cons, List.mem_append] at mem
    rcases mem with same | mem | mem
    · cases same
      apply top rfl
    · apply linear l r mem
    · apply linear' l r mem

/-- An operation is supported when its operands are and their leaders may stand beside each
other. -/
theorem supported_operation_iff :
  Supported (.operation operator left right)
    ↔ Supported left ∧ Supported right ∧ operator.accepts (lead left).kind (lead right).kind
  := by
  constructor
  · rintro ⟨unmixed, linear⟩
    rw [linear_operation_iff] at linear
    obtain ⟨linearLeft, linearRight, product⟩ := linear
    have unmixedLeft : ¬ Mixed left := by
      rintro ⟨percentage, dimension⟩
      apply unmixed
      rw [Mixed, has_operation, has_operation]
      exact ⟨Or.inl percentage, Or.inl dimension⟩
    have unmixedRight : ¬ Mixed right := by
      rintro ⟨percentage, dimension⟩
      apply unmixed
      rw [Mixed, has_operation, has_operation]
      exact ⟨Or.inr percentage, Or.inr dimension⟩
    refine ⟨⟨unmixedLeft, linearLeft⟩, ⟨unmixedRight, linearRight⟩, ?_⟩
    intro measured measured'
    constructor
    · rintro rfl
      apply product rfl
      exact ⟨(measured_iff left).mpr measured, (measured_iff right).mpr measured'⟩
    · by_contra different
      apply unmixed
      exact (mixed_operation_iff operator unmixedLeft unmixedRight).mpr
        ⟨measured, measured', different⟩
  · rintro ⟨⟨unmixed, linear⟩, ⟨unmixed', linear'⟩, accepts⟩
    constructor
    · rw [mixed_operation_iff operator unmixed unmixed']
      rintro ⟨measured, measured', different⟩
      apply different (accepts measured measured').2
    · rw [linear_operation_iff]
      refine ⟨linear, linear', ?_⟩
      rintro rfl ⟨measured, measured'⟩
      rw [measured_iff] at measured measured'
      apply (accepts measured measured').1 rfl

end

/-! ### Evaluation -/

theorem supported_leaf (q : WholeQuantity) :
  Supported (.leaf q)
  := by
  constructor
  · rintro ⟨⟨a, mem, percentage⟩, ⟨b, mem', dimension⟩⟩
    obtain rfl := List.mem_singleton.mp mem
    obtain rfl := List.mem_singleton.mp mem'
    rw [percentage] at dimension
    cases dimension
  · intro l r mem
    cases List.mem_singleton.mp mem

theorem lead_leaf (q : WholeQuantity) :
  lead (.leaf q) = q
  := Expression.leader_leaf WholeQuantity.isMeasured q

/-- A formula without a value is reported as an unsupported operation. -/
def Unsupported (r : Except Failure Node) : Prop :=
  ∃ e, r = .error (.operation e) ∧ e.code = .unsupportedOperation

/-- A supported formula has the leader with the amount of the formula as its value. -/
theorem evaluate_lead (e : Formula) :
  (Supported e ∧ evaluate e = .ok ((lead e).withAmount (amount e)))
    ∨ (¬ Supported e ∧ Unsupported (evaluate e))
  := by
  induction e with
  | leaf q =>
      left
      use supported_leaf q
      rw [lead_leaf]
      rfl
  | operation operator left right ihl ihr =>
      rw [supported_operation_iff, lead_operation]
      have step : evaluate (.operation operator left right)
          = (evaluate left >>= fun a => evaluate right >>= fun b =>
              perform operator.operator.symbol a b) := rfl
      rcases ihl with ⟨supported, value⟩ | ⟨unsupported, e, failed, code⟩
      · rcases ihr with ⟨supported', value'⟩ | ⟨unsupported, e, failed, code⟩
        · have performed : evaluate (.operation operator left right)
              = perform operator.operator.symbol ((lead left).withAmount (amount left))
                ((lead right).withAmount (amount right)) := by
            rw [step, value, value']
            rfl
          rw [performed, WholeQuantity.perform_withAmount]
          by_cases accepts : operator.accepts (lead left).kind (lead right).kind
          · left
            rw [if_pos accepts]
            exact ⟨⟨supported, supported', accepts⟩, rfl⟩
          · right
            rw [if_neg accepts]
            exact ⟨fun h => accepts h.2.2, _, rfl, rfl⟩
        · right
          use fun h => unsupported h.2.1, e
          rw [step, value, failed]
          exact ⟨rfl, code⟩
      · right
        use fun h => unsupported h.1, e
        rw [step, failed]
        exact ⟨rfl, code⟩

/-- A supported formula has its amount as its value, in hundredths if a percentage occurs, or else
in the unit of the leftmost dimension, at the location of the leftmost percentage or dimension, or
else of the leftmost leaf.  Any other formula is reported as an unsupported operation. -/
theorem evaluate_formula (e : Formula) :
  (Supported e ∧ evaluate e
      = .ok (.quantity ((e.leaves.find? WholeQuantity.isMeasured).getD e.first).loc (measure e)
          (.int (amount e))))
    ∨ (¬ Supported e ∧ ∃ mistake, evaluate e = .error (.operation mistake)
      ∧ mistake.code = .unsupportedOperation)
  := by
  rcases evaluate_lead e with ⟨supported, value⟩ | unsupported
  · left
    use supported
    rw [value, ← lead_measure supported.unmixed]
    rfl
  · right
    exact unsupported

/-- Of two units the left one stays. -/
example :
  evaluate (.operation .subtract
      (.operation .multiply (.leaf ⟨none, .plain, 2⟩) (.leaf ⟨none, .unit (.named "px"), 10⟩))
      (.leaf ⟨none, .unit (.named "em"), 4⟩))
    = .ok (.quantity none (.unit (.named "px")) (.int 16))
  := rfl

end Formula

end StyleValue
