import StyleValue.Config
import StyleValue.Number.Steps

/-!
# Items

`Node.items` lists the items that a node stands for: those of a list, the values of a range, or the
node itself.  `Node.toList?` makes a list with separators out of a range or of arguments.

The values of a range start at its first bound and move towards the second by steps of one, each in
the shape of the first bound.  An inclusive range is the exclusive one whose end is a step further.

Two things are not modelled: the report of an expanded range to a log, for which its bounds are
written out, and a limit that a host may set to the digits of a whole number that is written out.
-/

namespace StyleValue

/-- Why a range has no items. -/
inductive RangeError where
  /-- A bound carries nothing. -/
  | absentBound
  /-- A bound is a composite without children. -/
  | emptyBound
  /-- The bounds have no order. -/
  | incomparable
  /-- The bounds are texts, from which no step can be made. -/
  | unsteppable
  /-- The steps never reach the end. -/
  | endless
  deriving DecidableEq

/-- What a range compares of one of its bounds. -/
inductive Bound where
  | number (x : Number)
  | text (content : String)
  /-- A node inside a composite. -/
  | composite
  deriving DecidableEq

/-- The number that a flag counts as: true is one and false is zero. -/
def Flag.toNumber : Flag → Number
  | truth b => .int (if b then 1 else 0)
  | number x => x

namespace Node

/-- What a range compares of a bound: the first of its children. -/
def bound : Node → Except RangeError Bound
  | .quantity _ _ amount => .ok (.number amount)
  | .text _ _ content => .ok (.text content)
  | .boolean _ flag => .ok (.number flag.toNumber)
  | .null _ => .error .absentBound
  | .list _ [] => .error .emptyBound
  | .argumentList _ [] => .error .emptyBound
  | .list _ (_ :: _) => .ok .composite
  | .argumentList _ (_ :: _) => .ok .composite
  | .range .. => .ok .composite
  | .attributeSelector .. => .ok .composite

/-- The quantity or boolean with another number.  Other nodes carry no number and stay. -/
def withNumber : Node → Number → Node
  | .quantity loc measure _, x => .quantity loc measure x
  | .boolean loc _, x => .boolean loc (.number x)
  | n, _ => n

end Node

/-- The numbers of a range between two numbers. -/
def Number.span (first last : Number) (exclusive : Bool) : Except RangeError (List Number) :=
  let stop := if exclusive then last else (Direction.between first last).next last
  match (Direction.between first stop).walk? first stop with
  | some numbers => .ok numbers
  | none => .error .endless

/-- The first of the numbers is the one that the node carries already. -/
def Node.shapedLike (start : Node) : List Number → List Node
  | [] => []
  | _ :: rest => start :: rest.map start.withNumber

/-- The values of a range. -/
def Node.expand (start stop : Node) (exclusive : Bool) : Except RangeError (List Node) := do
  let first ← start.bound
  let last ← stop.bound
  match first, last with
  | .number a, .number b => start.shapedLike <$> a.span b exclusive
  | .text s, .text t => if exclusive ∧ s = t then .ok [] else .error .unsteppable
  | _, _ => .error .incomparable

/-- The items at the even positions. -/
def evens {α : Type} : List α → List α
  | [] => []
  | [a] => [a]
  | a :: _ :: rest => a :: evens rest

namespace Node

/-- The items that a node stands for. -/
def items : Node → Except RangeError (List Node)
  | .list _ nodes => .ok (evens nodes)
  | .range _ start stop exclusive => start.expand stop exclusive
  | n => .ok [n]

/-- A list of the given items at a location, with a separator between neighbours. -/
def separated (loc : Option Location) (separator : String) (items : List Node) : Node :=
  .list loc (items.intersperse (.text loc .separator separator))

/-- A list as it is, and a range or arguments as a list at the same location.  The separator is the
given one, or else the configured one. -/
def toList? (config : Config) (separator : Option String) :
    Node → Except RangeError (Option Node)
  | .list loc nodes => .ok (some (.list loc nodes))
  | .range loc start stop exclusive => do
      let nodes ← start.expand stop exclusive
      return some (separated loc (separator.getD config.rangeSeparator) nodes)
  | .argumentList loc nodes =>
      .ok (some (separated loc (separator.getD config.argumentSeparator) nodes))
  | _ => .ok none

end Node

end StyleValue
