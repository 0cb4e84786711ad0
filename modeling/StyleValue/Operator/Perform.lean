import StyleValue.Node.Conversion
import StyleValue.Operator.Error
import StyleValue.Operator.Rule

/-!
# Performing operations

`perform` applies a binary operator to two nodes.  The rule for the kinds of the operands says which
of them lends the result its shape; the operator says how the payloads are combined.  Adding to a
text writes the other operand behind or before it.

A rule is looked for first, so operands without one are reported even when the divisor is zero.
-/

namespace StyleValue

/-- Zero of either sign, and false. -/
def Payload.isZero : Payload → Bool
  | .number x => x.isZero
  | .truth b => !b
  | .text _ => false

namespace Operator

/-- The operator on numbers. -/
def onNumbers : Operator → Number → Number → Except ArithmeticError Number
  | add => Number.add
  | subtract => Number.sub
  | multiply => Number.mul
  | divide => Number.div
  | modulo => Number.rem

/-- The operator on payloads.  A sum with a text in it is the two written one after the other. -/
def onPayloads : Operator → Payload → Payload → Except Failure Payload
  | operator, .number a, .number b =>
      match operator.onNumbers a b with
      | .ok x => .ok (.number x)
      | .error e => .error (.arithmetic e)
  | add, .text s, q => .ok (.text (s ++ q.render))
  | add, p, .text t => .ok (.text (p.render ++ t))
  | _, _, _ => .error (.shape .mismatch)

/-- What is wrong with a zero divisor, for the operators that divide. -/
def zeroDivisor? : Operator → Option ErrorCode
  | divide => some .divideByZero
  | modulo => some .moduloByZero
  | _ => none

end Operator

namespace Node

/-- The scalar with another payload, where one is known to fit. -/
def carrying (n : Node) (p : Payload) : Except Failure Node :=
  match n.withPayload p with
  | .ok m => .ok m
  | .error e => .error (.shape e)

/-- The payload of an operand. -/
def operand (n : Node) : Except Failure Payload :=
  match n.payload? with
  | some p => .ok p
  | none => .error (.shape .notScalar)

end Node

/-- The operator on the payloads of two nodes. -/
def Operator.onNodes (operator : Operator) (left right : Node) : Except Failure Payload := do
  operator.onPayloads (← left.operand) (← right.operand)

namespace Rule

/-- The result of a rule, once its operands are known to be acceptable. -/
def combine (rule : Rule) (left right : Node) : Except Failure Node :=
  match rule.shape with
  | .ontoLeft => do left.carrying (← rule.operator.onNodes left right)
  | .ontoRight => do right.carrying (← rule.operator.onNodes left right)
  | .withoutUnits => do
      match ← rule.operator.onNodes left right with
      | .number x => return .quantity left.loc .plain x
      | _ => .error (.shape .mismatch)
  | .withUnit =>
      match left, right with
      | .quantity loc _ amount, .text _ _ name => .ok (.quantity loc (.unit (.named name)) amount)
      | _, _ => .error (.shape .mismatch)
  | .appendRendered =>
      match left, right with
      | .text loc role content, .quantity _ measure amount =>
          .ok (.text loc role (content ++ Node.quantityText measure amount))
      | _, _ => .error (.shape .mismatch)
  | .prependRendered =>
      match left, right with
      | .quantity _ measure amount, .text loc role content =>
          .ok (.text loc role (Node.quantityText measure amount ++ content))
      | _, _ => .error (.shape .mismatch)

/-- The result of a rule.  A zero divisor is refused and blamed. -/
def apply (rule : Rule) (left right : Node) : Except Failure Node :=
  match rule.operator.zeroDivisor? with
  | none => rule.combine left right
  | some code =>
      if right.payload?.any Payload.isZero then
        .error (.operation ⟨code, .of rule.operator.symbol left right, right.loc⟩)
      else
        rule.combine left right

end Rule

/-- Applies the operator with the given symbol to two nodes.  An operation without a rule blames the
left operand. -/
def perform (symbol : String) (left right : Node) : Except Failure Node :=
  match Rule.find? left.kind symbol right.kind with
  | some rule => rule.apply left right
  | none =>
      .error (.operation ⟨.unsupportedOperation, .of symbol left right, left.loc⟩)

end StyleValue
