import Mathlib.Tactic.Use
import StyleValue.Operator.Perform

/-!
# What rules apply to

A rule is found by the kinds of its operands, and its shape tells what these operands are.
`Rule.Fits` lists the pairs of operands that a rule may meet, and `Rule.fits_of_find?` says that
there are no others, so that whatever a rule does can be shown by going through `Rule.Fits`.

On two quantities every rule is arithmetic on their amounts, and `Rule.combine_quantities` says what
comes out of it; on other operands a rule joins texts, which cannot fail.
-/

namespace StyleValue

/-! ### Kinds of operands -/

namespace Kind

/-- The kinds of quantities. -/
def isNumeric : Kind → Bool
  | .number => true
  | .percentage => true
  | .dimension => true
  | _ => false

/-- The kinds of words and quoted strings. -/
def isWord : Kind → Bool
  | .identifier => true
  | .string => true
  | _ => false

/-- The kinds of scalars that are written by writing their payload. -/
def isPlain : Kind → Bool
  | .number => true
  | .boolean => true
  | .identifier => true
  | .string => true
  | _ => false

theorem mem_all (kind : Kind) :
  kind ∈ all
  := by
  cases kind <;> decide

end Kind

namespace Node

/-- A node of a numeric kind is a quantity. -/
theorem eq_quantity_of_isNumeric {n : Node} (h : n.kind.isNumeric) :
  ∃ loc measure amount, n = .quantity loc measure amount
  := by
  cases n with
  | quantity loc measure amount => use loc, measure, amount
  | text _ role _ => cases role <;> cases h
  | _ => cases h

/-- A node of the kind of a word or a quoted string is a text. -/
theorem eq_text_of_isWord {n : Node} (h : n.kind.isWord) :
  ∃ loc role content, n = .text loc role content
  := by
  cases n with
  | quantity _ measure _ => cases measure <;> cases h
  | text loc role content => use loc, role, content
  | _ => cases h

/-- A node of a plain kind has a payload. -/
theorem payload?_of_isPlain {n : Node} (h : n.kind.isPlain) :
  ∃ p, n.payload? = some p
  := by
  cases n with
  | quantity _ _ amount => exact ⟨.number amount, rfl⟩
  | text _ _ content => exact ⟨.text content, rfl⟩
  | boolean _ flag => exact ⟨flag.payload, rfl⟩
  | _ => cases h

end Node

/-! ### Finding a rule -/

namespace Operator

theorem mem_all (operator : Operator) :
  operator ∈ all
  := by
  cases operator <;> decide

/-- An operator is found by its own symbol only. -/
theorem ofSymbol?_eq_some_iff {text : String} {operator : Operator} :
  ofSymbol? text = some operator ↔ text = operator.symbol
  := by
  constructor
  · intro h
    have found := List.find?_some h
    simp only [decide_eq_true_eq] at found
    rw [found]
  · rintro rfl
    apply ofSymbol?_symbol

end Operator

/-- The shapes of results that are computed from two amounts. -/
def Shape.isArithmetic : Shape → Bool
  | .ontoLeft => true
  | .ontoRight => true
  | .withoutUnits => true
  | _ => false

/-- The kinds of operands that a shape joins to a text or to a number with a unit. -/
def Shape.joins (left right : Kind) : Shape → Bool
  | .ontoLeft => left.isWord && right.isPlain
  | .ontoRight => left.isPlain && right.isWord
  | .withoutUnits => false
  | .withUnit => left = .number && right = .identifier
  | .appendRendered => left.isWord && (right.isNumeric && right ≠ .number)
  | .prependRendered => (left.isNumeric && left ≠ .number) && right.isWord

/-- The kinds of operands that a shape is made for. -/
def Shape.suits (operator : Operator) (left right : Kind) (shape : Shape) : Bool :=
  shape.isArithmetic && (left.isNumeric && right.isNumeric)
    || operator = .add && shape.joins left right

namespace Rule

/-- The table lists a pair of kinds only under shapes that are made for it. -/
theorem suits_of_shape? {operator : Operator} {left right : Kind} {shape : Shape}
    (h : shape? operator left right = some shape) :
  shape.suits operator left right
  := by
  have all : ∀ operator ∈ Operator.all, ∀ left ∈ Kind.all, ∀ right ∈ Kind.all,
      (shape? operator left right).all (Shape.suits operator left right) := by
    decide +kernel
  have here := all operator operator.mem_all left left.mem_all right right.mem_all
  rw [h] at here
  apply here

theorem find?_symbol (left right : Kind) (operator : Operator) :
  find? left operator.symbol right = (shape? operator left right).map (Rule.mk operator)
  := by
  rw [find?, Operator.ofSymbol?_symbol]
  cases h : shape? operator left right <;> simp [h]

/-- A rule is found by the symbol of its operator, for the kinds that its shape is listed with. -/
theorem find?_eq_some_iff {left right : Kind} {symbol : String} {rule : Rule} :
  find? left symbol right = some rule
    ↔ symbol = rule.operator.symbol ∧ shape? rule.operator left right = some rule.shape
  := by
  constructor
  · intro h
    obtain ⟨operator, found, h⟩ := Option.bind_eq_some_iff.mp h
    obtain ⟨shape, listed, h⟩ := Option.bind_eq_some_iff.mp h
    obtain rfl := Option.some.inj h
    exact ⟨Operator.ofSymbol?_eq_some_iff.mp found, listed⟩
  · rintro ⟨rfl, listed⟩
    rw [find?_symbol, listed]
    rfl

/-! ### Operands of a rule -/

/-- The operands that a rule may meet. -/
inductive Fits : Rule → Node → Node → Prop where
  /-- Two quantities, whose amounts are computed with. -/
  | quantities {operator shape l m a l' m' b} (arithmetic : shape.isArithmetic) :
      Fits ⟨operator, shape⟩ (.quantity l m a) (.quantity l' m' b)
  /-- A scalar written behind a text. -/
  | behindText {loc role content right} (word : role.kind.isWord) (plain : right.kind.isPlain) :
      Fits ⟨.add, .ontoLeft⟩ (.text loc role content) right
  /-- A scalar written before a text. -/
  | beforeText {left loc role content} (plain : left.kind.isPlain) (word : role.kind.isWord) :
      Fits ⟨.add, .ontoRight⟩ left (.text loc role content)
  /-- A number that gets a word as its unit. -/
  | unit {l a l' content} :
      Fits ⟨.add, .withUnit⟩ (.quantity l .plain a) (.text l' .identifier content)
  /-- A quantity written behind a text, with its measure. -/
  | quantityBehind {loc role content l m a} (word : role.kind.isWord) (measured : m ≠ .plain) :
      Fits ⟨.add, .appendRendered⟩ (.text loc role content) (.quantity l m a)
  /-- A quantity written before a text, with its measure. -/
  | quantityBefore {l m a loc role content} (measured : m ≠ .plain) (word : role.kind.isWord) :
      Fits ⟨.add, .prependRendered⟩ (.quantity l m a) (.text loc role content)

/-- Operands that a shape joins fit the rule of that shape. -/
theorem fits_of_joins {shape : Shape} {left right : Node}
    (h : shape.joins left.kind right.kind) :
  Fits ⟨.add, shape⟩ left right
  := by
  cases shape with
  | ontoLeft =>
      obtain ⟨word, plain⟩ := Bool.and_eq_true_iff.mp h
      obtain ⟨loc, role, content, rfl⟩ := left.eq_text_of_isWord word
      apply Fits.behindText word plain
  | ontoRight =>
      obtain ⟨plain, word⟩ := Bool.and_eq_true_iff.mp h
      obtain ⟨loc, role, content, rfl⟩ := right.eq_text_of_isWord word
      apply Fits.beforeText plain word
  | withoutUnits => cases h
  | withUnit =>
      simp only [Shape.joins, Bool.and_eq_true, decide_eq_true_eq] at h
      obtain ⟨number, identifier⟩ := h
      obtain ⟨l, m, a, rfl⟩ := left.eq_quantity_of_isNumeric (by rw [number]; rfl)
      obtain ⟨l', role, content, rfl⟩ := right.eq_text_of_isWord (by rw [identifier]; rfl)
      cases m <;> cases number
      cases role <;> cases identifier
      apply Fits.unit
  | appendRendered =>
      simp only [Shape.joins, Bool.and_eq_true, decide_eq_true_eq] at h
      obtain ⟨word, numeric, number⟩ := h
      obtain ⟨loc, role, content, rfl⟩ := left.eq_text_of_isWord word
      obtain ⟨l, m, a, rfl⟩ := right.eq_quantity_of_isNumeric numeric
      apply Fits.quantityBehind word
      rintro rfl
      apply number rfl
  | prependRendered =>
      simp only [Shape.joins, Bool.and_eq_true, decide_eq_true_eq] at h
      obtain ⟨⟨numeric, number⟩, word⟩ := h
      obtain ⟨l, m, a, rfl⟩ := left.eq_quantity_of_isNumeric numeric
      obtain ⟨loc, role, content, rfl⟩ := right.eq_text_of_isWord word
      apply Fits.quantityBefore _ word
      rintro rfl
      apply number rfl

/-- Operands that a shape suits fit the rule of that shape. -/
theorem fits_of_suits {operator : Operator} {shape : Shape} {left right : Node}
    (h : shape.suits operator left.kind right.kind) :
  Fits ⟨operator, shape⟩ left right
  := by
  simp only [Shape.suits, Bool.or_eq_true, Bool.and_eq_true, decide_eq_true_eq] at h
  rcases h with ⟨arithmetic, numeric, numeric'⟩ | ⟨rfl, joins⟩
  · obtain ⟨l, m, a, rfl⟩ := left.eq_quantity_of_isNumeric numeric
    obtain ⟨l', m', b, rfl⟩ := right.eq_quantity_of_isNumeric numeric'
    apply Fits.quantities arithmetic
  · apply fits_of_joins joins

/-- The operands of a rule that is found fit it. -/
theorem fits_of_find? {left right : Node} {symbol : String} {rule : Rule}
    (h : find? left.kind symbol right.kind = some rule) :
  rule.Fits left right
  := fits_of_suits (suits_of_shape? (find?_eq_some_iff.mp h).2)

end Rule

/-! ### Results of a rule -/

/-- The quantity that a shape makes of a number, from the locations and measures of the operands. -/
def Shape.quantity
    (l : Option Location) (m : Measure) (l' : Option Location) (m' : Measure) :
    Shape → Number → Node
  | .ontoLeft => .quantity l m
  | .ontoRight => .quantity l' m'
  | _ => .quantity l .plain

namespace Rule

theorem combine_quantities
    {operator : Operator} {shape : Shape} {l l' : Option Location} {m m' : Measure} {a b : Number}
    (arithmetic : shape.isArithmetic) :
  combine ⟨operator, shape⟩ (.quantity l m a) (.quantity l' m' b)
    = match operator.onNumbers a b with
      | .ok x => .ok (shape.quantity l m l' m' x)
      | .error e => .error (.arithmetic e)
  := by
  have amounts : operator.onNodes (.quantity l m a) (.quantity l' m' b)
      = match operator.onNumbers a b with
        | .ok x => .ok (.number x)
        | .error e => .error (.arithmetic e) := by
    cases operator <;> rfl
  cases shape <;> cases arithmetic <;> simp only [combine, amounts] <;>
    cases operator.onNumbers a b <;> rfl

theorem combine_behindText
    {loc : Option Location} {role : TextRole} {content : String} {right : Node} {p : Payload}
    (h : right.payload? = some p) :
  combine ⟨.add, .ontoLeft⟩ (.text loc role content) right
    = .ok (.text loc role (content ++ p.render))
  := by
  simp only [combine, Operator.onNodes, Node.operand, h]
  rfl

theorem combine_beforeText
    {left : Node} {p : Payload} {loc : Option Location} {role : TextRole} {content : String}
    (h : left.payload? = some p) :
  combine ⟨.add, .ontoRight⟩ left (.text loc role content)
    = .ok (.text loc role (p.render ++ content))
  := by
  simp only [combine, Operator.onNodes, Node.operand, h]
  cases p <;> rfl

/-- A rule either computes with two amounts or is a sum that joins its operands, which always has a
result. -/
theorem quantities_or_joined {rule : Rule} {left right : Node} (fits : rule.Fits left right) :
  (rule.shape.isArithmetic ∧ ∃ l m a l' m' b,
      left = .quantity l m a ∧ right = .quantity l' m' b)
    ∨ (rule.operator = .add ∧ (left.toNumber? = none ∨ right.toNumber? = none)
      ∧ ∃ n, rule.combine left right = .ok n)
  := by
  cases fits with
  | quantities arithmetic =>
      left
      exact ⟨arithmetic, _, _, _, _, _, _, rfl, rfl⟩
  | behindText word plain =>
      obtain ⟨p, h⟩ := Node.payload?_of_isPlain plain
      right
      exact ⟨rfl, Or.inl rfl, _, combine_behindText h⟩
  | beforeText plain word =>
      obtain ⟨p, h⟩ := Node.payload?_of_isPlain plain
      right
      exact ⟨rfl, Or.inr rfl, _, combine_beforeText h⟩
  | unit =>
      right
      exact ⟨rfl, Or.inr rfl, _, rfl⟩
  | quantityBehind =>
      right
      exact ⟨rfl, Or.inl rfl, _, rfl⟩
  | quantityBefore =>
      right
      exact ⟨rfl, Or.inr rfl, _, rfl⟩

/-- A rule is applied unless its operator divides and the divisor is zero. -/
theorem apply_eq_combine {rule : Rule} {left right : Node}
    (h : rule.operator.zeroDivisor?.isSome → right.payload?.any Payload.isZero = false) :
  rule.apply left right = rule.combine left right
  := by
  rw [apply]
  cases divisor : rule.operator.zeroDivisor? with
  | none => rfl
  | some code =>
      rw [divisor] at h
      simp only [h rfl]
      rfl

/-- A zero divisor is refused, and blamed on the right operand. -/
theorem apply_of_isZero {rule : Rule} {code : ErrorCode} {left right : Node}
    (divides : rule.operator.zeroDivisor? = some code)
    (zero : right.payload?.any Payload.isZero = true) :
  rule.apply left right
    = .error (.operation ⟨code, .of rule.operator.symbol left right, right.loc⟩)
  := by
  rw [apply, divides]
  simp only [zero]
  rfl

end Rule

/-- Performing an operator by its symbol applies the rule of the shape that is listed for it. -/
theorem perform_symbol (operator : Operator) (left right : Node) :
  perform operator.symbol left right
    = match Rule.shape? operator left.kind right.kind with
      | some shape => Rule.apply ⟨operator, shape⟩ left right
      | none =>
          .error (.operation
            ⟨.unsupportedOperation, .of operator.symbol left right, left.loc⟩)
  := by
  rw [perform, Rule.find?_symbol]
  cases Rule.shape? operator left.kind right.kind <;> rfl

/-- An operation on two quantities computes with their amounts. -/
theorem perform_quantities
    {operator : Operator} {shape : Shape} {m m' : Measure} {b : Number}
    (listed : Rule.shape? operator m.kind m'.kind = some shape) (arithmetic : shape.isArithmetic)
    (divisor : operator.zeroDivisor?.isSome → b.isZero = false) (l l' : Option Location)
    (a : Number) :
  perform operator.symbol (.quantity l m a) (.quantity l' m' b)
    = match operator.onNumbers a b with
      | .ok x => .ok (shape.quantity l m l' m' x)
      | .error e => .error (.arithmetic e)
  := by
  have found : Rule.shape? operator (Node.quantity l m a).kind (Node.quantity l' m' b).kind
      = some shape := listed
  rw [perform_symbol, found]
  simp only
  rw [Rule.apply_eq_combine divisor, Rule.combine_quantities arithmetic]

end StyleValue
