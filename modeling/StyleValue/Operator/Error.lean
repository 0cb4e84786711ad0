import StyleValue.Node.Children

/-!
# Failing operations

An operation fails because a divisor is zero or because no rule covers its operands; both are
mistakes of the style sheet, and blame one of the operands.  Apart from them, an amount may be too
large to compute with.
-/

namespace StyleValue

/-- The mistakes that an operation finds in a style sheet. -/
inductive ErrorCode where
  | divideByZero
  | moduloByZero
  | unsupportedOperation
  deriving DecidableEq

namespace ErrorCode

/-- All codes. -/
def all : List ErrorCode := [divideByZero, moduloByZero, unsupportedOperation]

/-- The code to search for. -/
def text : ErrorCode → String
  | divideByZero => "S-OP-001"
  | moduloByZero => "S-OP-002"
  | unsupportedOperation => "S-OP-003"

/-- The group of mistakes that a code belongs to. -/
def category : ErrorCode → String
  | divideByZero => "operator"
  | moduloByZero => "operator"
  | unsupportedOperation => "operator"

/-- The page that explains a code. -/
def documentation (code : ErrorCode) : String :=
  "https://sheetexpr.readthedocs.io/en/latest/errors.html#" ++ code.text.toLower

end ErrorCode

/-- An operator with the kinds of its operands. -/
structure Operation where
  symbol : String
  left : Kind
  right : Kind
  deriving DecidableEq

def Operation.of (symbol : String) (left right : Node) : Operation :=
  ⟨symbol, left.kind, right.kind⟩

/-- A mistake found in an operation, with the location of the operand to blame. -/
structure OperationError where
  code : ErrorCode
  operation : Operation
  loc : Option Location
  deriving DecidableEq

/-- The mistake in words. -/
def OperationError.message (e : OperationError) : String :=
  match e.code with
  | .divideByZero => "Divide by zero"
  | .moduloByZero => "Modulo by zero"
  | .unsupportedOperation =>
      "Unsupported binary operation: " ++ e.operation.left.name ++ " " ++ e.operation.symbol ++ " "
        ++ e.operation.right.name

/-- Why an operation has no result. -/
inductive Failure where
  /-- A mistake of the style sheet. -/
  | operation (e : OperationError)
  /-- Amounts that cannot be computed with. -/
  | arithmetic (e : ArithmeticError)
  /-- Operands that are not of the shape that the rule expects. -/
  | shape (e : ShapeError)
  deriving DecidableEq

end StyleValue
