import StyleValue.Decimal.Basic
import StyleValue.Kind
import StyleValue.Text.Literal

/-!
# Measures

What the amount of a quantity counts: nothing in particular, hundredths, or a unit.
-/

namespace StyleValue

/-- A part of a compound unit. -/
inductive UnitPart where
  | absent
  | int (n : Int)
  | text (content : String)
  deriving DecidableEq

/-- The unit of a dimension.  As a rule it has a name; it may also be missing, or be a compound of
several parts, which is carried along and shown like any other unit. -/
inductive UnitOfMeasure where
  | named (name : String)
  | absent
  | compound (parts : List UnitPart)
  deriving DecidableEq

/-- What an amount counts. -/
inductive Measure where
  /-- Nothing in particular, as in `12`. -/
  | plain
  /-- Hundredths, as in `50%`. -/
  | percent
  /-- A unit, as in `10px`. -/
  | unit (u : UnitOfMeasure)
  deriving DecidableEq

def UnitPart.literal : UnitPart → String
  | absent => Literal.absent
  | int n => (Decimal.ofInt n).plain
  | text content => Text.quoted content

namespace UnitOfMeasure

/-- The unit as it is written in full. -/
def literal : UnitOfMeasure → String
  | named name => Text.quoted name
  | absent => Literal.absent
  | compound parts => Literal.list (parts.map UnitPart.literal)

/-- The unit as it is written after an amount. -/
def suffix : UnitOfMeasure → String
  | named name => name
  | absent => Literal.absent
  | compound parts => Literal.list (parts.map UnitPart.literal)

end UnitOfMeasure

namespace Measure

def kind : Measure → Kind
  | plain => .number
  | percent => .percentage
  | unit _ => .dimension

/-- What is written after an amount. -/
def suffix : Measure → String
  | plain => ""
  | percent => "%"
  | unit u => u.suffix

end Measure

end StyleValue
