import StyleValue.Proofs.Node.Within
import StyleValue.Proofs.Operator.Expression
import StyleValue.Proofs.Operator.Outcome

/-!
# Results of operations

`Follows` lists what the result of an operation owes to its operands: its kind depends on their
kinds only, a quantity carries a number and a text a text, a unit is taken from a dimension or from
the word after a number, and the location is that of an operand.  No operation yields a payload that
the kind of its result cannot carry (`perform_ne_shape`).  In an expression of many operations the
location is that of a leaf (`Expression.loc_of_eval`).
-/

namespace StyleValue

/-- The kind of the result of a shape. -/
def Shape.kind (left right : Kind) : Shape → Kind
  | ontoLeft => left
  | ontoRight => right
  | withoutUnits => .number
  | withUnit => .dimension
  | appendRendered => left
  | prependRendered => right

/-- The kind of the result of an operator, given by its symbol, on operands of the given kinds. -/
def Rule.kind? (symbol : String) (left right : Kind) : Option Kind :=
  (find? left symbol right).map fun rule => rule.shape.kind left right

/-- The unit of a dimension. -/
def Node.unit? : Node → Option UnitOfMeasure
  | .quantity _ (.unit u) _ => some u
  | _ => none

/-- A quantity carries a number, and a word or a quoted string a text. -/
inductive Node.CarriesItsSort (n : Node) : Prop where
  | number (x : Number) (numeric : n.kind.isNumeric) (payload : n.payload? = some (.number x))
  | text (content : String) (word : n.kind.isWord) (payload : n.payload? = some (.text content))

/-- What the result of an operation owes to the operator and the operands. -/
structure Follows (symbol : String) (left right n : Node) : Prop where
  kind : Rule.kind? symbol left.kind right.kind = some n.kind
  sort : n.CarriesItsSort
  wellFormed : n.IsWellFormed
  /-- A unit is that of an operand, or the word after a number. -/
  unit (u : UnitOfMeasure) (h : n.unit? = some u) :
    left.unit? = some u ∨ right.unit? = some u
      ∨ symbol = "+" ∧ left.kind = .number ∧ right.kind = .identifier
        ∧ ∃ name, right.payload? = some (.text name) ∧ u = .named name
  loc : n.loc = left.loc ∨ n.loc = right.loc

theorem Node.isWellFormed_quantity (loc : Option Location) (measure : Measure) (amount : Number) :
  (quantity loc measure amount).IsWellFormed
  := by
  intro m mem
  obtain rfl := List.mem_singleton.mp mem
  rfl

theorem Node.isWellFormed_text (loc : Option Location) (role : TextRole) (content : String) :
  (text loc role content).IsWellFormed
  := by
  intro m mem
  obtain rfl := List.mem_singleton.mp mem
  rfl

theorem Measure.isNumeric_kind (m : Measure) :
  m.kind.isNumeric
  := by
  cases m <;> rfl

namespace Rule

section

variable {rule : Rule} {left right : Node}

/-- A quantity follows from operands of a kind and unit that are its own. -/
theorem follows_quantity
    {loc : Option Location} {measure : Measure} {amount : Number}
    (found : find? left.kind rule.operator.symbol right.kind = some rule)
    (kind : rule.shape.kind left.kind right.kind = measure.kind)
    (unit : ∀ u, measure = .unit u → left.unit? = some u ∨ right.unit? = some u
      ∨ rule.operator.symbol = "+" ∧ left.kind = .number ∧ right.kind = .identifier
        ∧ ∃ name, right.payload? = some (.text name) ∧ u = .named name)
    (place : loc = left.loc ∨ loc = right.loc) :
  Follows rule.operator.symbol left right (.quantity loc measure amount)
  where
  kind := by
    rw [kind?, found, Option.map_some, kind]
    rfl
  sort := .number amount measure.isNumeric_kind rfl
  wellFormed := Node.isWellFormed_quantity loc measure amount
  unit u h := by
    apply unit
    cases measure <;> cases h
    rfl
  loc := place

/-- A text follows from an operand of its kind. -/
theorem follows_text
    {loc : Option Location} {role : TextRole} {content : String}
    (found : find? left.kind rule.operator.symbol right.kind = some rule)
    (kind : rule.shape.kind left.kind right.kind = role.kind) (word : role.kind.isWord)
    (place : loc = left.loc ∨ loc = right.loc) :
  Follows rule.operator.symbol left right (.text loc role content)
  where
  kind := by
    rw [kind?, found, Option.map_some, kind]
    rfl
  sort := .text content word rfl
  wellFormed := Node.isWellFormed_text loc role content
  unit _ h := nomatch h
  loc := place

/-- Arithmetic makes a quantity of the kind and unit of one of its operands, or a plain number. -/
theorem follows_shape_quantity
    {l l' : Option Location} {m m' : Measure} {a b x : Number}
    (found : find? (Node.quantity l m a).kind rule.operator.symbol (Node.quantity l' m' b).kind
      = some rule)
    (arithmetic : rule.shape.isArithmetic) :
  Follows rule.operator.symbol (.quantity l m a) (.quantity l' m' b)
    (rule.shape.quantity l m l' m' x)
  := by
  obtain ⟨operator, shape⟩ := rule
  cases shape with
  | ontoLeft =>
      apply follows_quantity found rfl _ (Or.inl rfl)
      rintro u rfl
      exact Or.inl rfl
  | ontoRight =>
      apply follows_quantity found rfl _ (Or.inr rfl)
      rintro u rfl
      exact Or.inr (Or.inl rfl)
  | withoutUnits =>
      apply follows_quantity found rfl _ (Or.inl rfl)
      rintro u ⟨⟩
  | _ => cases arithmetic

/-- What a rule makes of its operands follows from them. -/
theorem follows_of_combine {n : Node}
    (found : find? left.kind rule.operator.symbol right.kind = some rule)
    (combined : rule.combine left right = .ok n) :
  Follows rule.operator.symbol left right n
  := by
  cases fits_of_find? found with
  | quantities arithmetic =>
      rw [combine_quantities arithmetic] at combined
      split at combined
      · cases combined
        apply follows_shape_quantity found arithmetic
      · cases combined
  | behindText word plain =>
      obtain ⟨p, payload⟩ := Node.payload?_of_isPlain plain
      rw [combine_behindText payload] at combined
      cases combined
      exact follows_text found rfl word (Or.inl rfl)
  | beforeText plain word =>
      obtain ⟨p, payload⟩ := Node.payload?_of_isPlain plain
      rw [combine_beforeText payload] at combined
      cases combined
      exact follows_text found rfl word (Or.inr rfl)
  | unit =>
      cases combined
      apply follows_quantity found rfl _ (Or.inl rfl)
      rintro u ⟨⟩
      exact Or.inr (Or.inr ⟨rfl, rfl, rfl, _, rfl, rfl⟩)
  | quantityBehind word measured =>
      cases combined
      exact follows_text found rfl word (Or.inl rfl)
  | quantityBefore measured word =>
      cases combined
      exact follows_text found rfl word (Or.inr rfl)

theorem combine_of_apply {n : Node} (h : rule.apply left right = .ok n) :
  rule.combine left right = .ok n
  := by
  rw [apply] at h
  split at h
  · exact h
  · split at h
    · cases h
    · exact h

end

end Rule

/-- The result of an operation follows from its operands. -/
theorem follows_of_perform {symbol : String} {left right n : Node}
    (performed : perform symbol left right = .ok n) :
  Follows symbol left right n
  := by
  rw [perform] at performed
  split at performed
  next rule found =>
    obtain ⟨rfl, -⟩ := Rule.find?_eq_some_iff.mp found
    apply Rule.follows_of_combine found (Rule.combine_of_apply performed)
  next => cases performed

/-- The payload that an operation yields fits the kind of its result. -/
theorem perform_ne_shape (symbol : String) (left right : Node) (e : ShapeError) :
  perform symbol left right ≠ .error (.shape e)
  := by
  intro failed
  have outcome := perform_outcome symbol left right
  rw [failed] at outcome
  cases outcome

/-- The value of an expression has the location of one of its leaves. -/
theorem Expression.loc_of_eval {ω α : Type} {symbol : ω → String} {node : α → Node}
    (e : Expression ω α) {n : Node} (value : e.eval symbol node = .ok n) :
  ∃ a ∈ e.leaves, n.loc = (node a).loc
  := by
  induction e generalizing n with
  | leaf a =>
      cases value
      exact ⟨a, List.mem_singleton_self a, rfl⟩
  | operation operator left right ihl ihr =>
      obtain ⟨l, r, leftValue, rightValue, performed⟩ := eval_operation_eq_ok_iff.mp value
      rw [leaves]
      rcases (follows_of_perform performed).loc with same | same
      · obtain ⟨a, mem, place⟩ := ihl leftValue
        exact ⟨a, List.mem_append_left _ mem, same.trans place⟩
      · obtain ⟨a, mem, place⟩ := ihr rightValue
        exact ⟨a, List.mem_append_right _ mem, same.trans place⟩

end StyleValue
