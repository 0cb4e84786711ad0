import StyleValue.Kind

/-!
# Operator rules

Which operands a binary operator takes is listed by their kinds, together with the *shape* of the
result: whose kind, unit and location it has.  An operator with a pair of kinds that is not listed
is not supported.
-/

namespace StyleValue

/-- A binary operator. -/
inductive Operator where
  | add
  | subtract
  | multiply
  | divide
  | modulo
  deriving DecidableEq

namespace Operator

/-- All operators, in the order of their symbols. -/
def all : List Operator := [modulo, multiply, add, subtract, divide]

/-- The operator as it is written. -/
def symbol : Operator → String
  | add => "+"
  | subtract => "-"
  | multiply => "*"
  | divide => "/"
  | modulo => "%"

def verb : Operator → String
  | add => "add"
  | subtract => "subtract"
  | multiply => "multiply"
  | divide => "divide"
  | modulo => "modulo"

/-- The operator with a given symbol. -/
def ofSymbol? (text : String) : Option Operator :=
  all.find? fun operator => operator.symbol = text

/-- An operator is found by its symbol. -/
theorem ofSymbol?_symbol (operator : Operator) :
  ofSymbol? operator.symbol = some operator
  := by
  cases operator <;> rfl

end Operator

/-- Where the result of an operation takes its kind, unit and location from. -/
inductive Shape where
  /-- From the left operand, as in `10px + 2`. -/
  | ontoLeft
  /-- From the right operand, as in `2 * 10px`. -/
  | ontoRight
  /-- A number without a unit at the left operand, as in `50% / 25%`. -/
  | withoutUnits
  /-- A number with the right operand as its unit, as in `2 + px`. -/
  | withUnit
  /-- The left operand with the written right one behind it, as in `"a" + 10px`. -/
  | appendRendered
  /-- The right operand with the written left one before it, as in `10px + "a"`. -/
  | prependRendered
  deriving DecidableEq

/-- An operator with the shape of its result. -/
structure Rule where
  operator : Operator
  shape : Shape
  deriving DecidableEq

namespace Rule

/-- The name by which a rule is known. -/
def name (rule : Rule) : String :=
  match rule.shape with
  | .ontoLeft => rule.operator.verb ++ "-left"
  | .ontoRight => rule.operator.verb ++ "-right"
  | .withoutUnits => rule.operator.verb ++ "-cancel-units"
  | .withUnit => "number-with-unit"
  | .appendRendered => "append-rendered"
  | .prependRendered => "prepend-rendered"

/-- A quantity with a plain number. -/
def scaled : List (Kind × Kind) :=
  [(.number, .number), (.percentage, .number), (.dimension, .number)]

/-- A plain number with a percentage or dimension. -/
def scaling : List (Kind × Kind) :=
  [(.number, .percentage), (.number, .dimension)]

/-- Two percentages, or two dimensions. -/
def alike : List (Kind × Kind) :=
  [(.percentage, .percentage), (.dimension, .dimension)]

/-- The pairs of kinds that an operator takes, by the shape of the result. -/
def table : Operator → List (Shape × List (Kind × Kind))
  | .add =>
      [(.ontoLeft, scaled ++ alike
          ++ [(.identifier, .number), (.identifier, .boolean), (.identifier, .identifier),
            (.string, .number), (.string, .boolean), (.string, .identifier), (.string, .string)]),
        (.withUnit, [(.number, .identifier)]),
        (.appendRendered, [(.identifier, .percentage), (.identifier, .dimension),
          (.string, .dimension), (.string, .percentage)]),
        (.ontoRight, scaling
          ++ [(.number, .string), (.boolean, .identifier), (.boolean, .string),
            (.identifier, .string)]),
        (.prependRendered, [(.percentage, .string), (.dimension, .string)])]
  | .subtract => [(.ontoLeft, scaled ++ alike), (.ontoRight, scaling)]
  | .multiply => [(.ontoLeft, scaled), (.ontoRight, scaling)]
  | .divide => [(.ontoLeft, scaled), (.withoutUnits, alike), (.ontoRight, scaling)]
  | .modulo => [(.ontoLeft, scaled), (.withoutUnits, alike), (.ontoRight, scaling)]

/-- The shape of the result of an operator on operands of the given kinds. -/
def shape? (operator : Operator) (left right : Kind) : Option Shape :=
  ((table operator).find? fun (_, pairs) => pairs.contains (left, right)).map Prod.fst

/-- The rule for an operator, given by its symbol, between operands of the given kinds. -/
def find? (left : Kind) (symbol : String) (right : Kind) : Option Rule := do
  let operator ← Operator.ofSymbol? symbol
  let shape ← shape? operator left right
  return ⟨operator, shape⟩

end Rule

end StyleValue
