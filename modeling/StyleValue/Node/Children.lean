import StyleValue.Node.Basic

/-!
# Children of a node

The payload of a node in positional form: `Node.children?` shows it, and `Node.withChildren` builds
a node of the same kind and location from another one.  What the form does not show, such as the
location or the operator of an attribute selector, is kept.
-/

namespace StyleValue

/-- Why a node cannot be given a payload. -/
inductive ShapeError where
  /-- Fewer children than the kind has. -/
  | tooFewChildren
  /-- The node has no payload of its own to replace. -/
  | notScalar
  /-- The payload is not of the sort that the kind carries. -/
  | mismatch
  deriving DecidableEq

namespace Value

def ofNumber (x : Number) : Value := .payload (.number x)

def ofText (content : String) : Value := .payload (.text content)

def toNode? : Value → Option Node
  | .node n => some n
  | _ => none

def ofUnitPart : UnitPart → Value
  | .absent => .absent
  | .int n => .ofNumber (.int n)
  | .text content => .ofText content

def toUnitPart? : Value → Option UnitPart
  | .absent => some .absent
  | .payload (.number (.int n)) => some (.int n)
  | .payload (.text content) => some (.text content)
  | _ => none

/-- A unit as a value: its name, nothing, or the list of its parts. -/
def ofUnit : UnitOfMeasure → Value
  | .named name => .ofText name
  | .absent => .absent
  | .compound parts => .sequence .list (parts.map ofUnitPart)

/-- The unit that a value stands for. -/
def toUnit? : Value → Option UnitOfMeasure
  | .payload (.text name) => some (.named name)
  | .absent => some .absent
  | .sequence .list items => (items.mapM toUnitPart?).map .compound
  | _ => none

end Value

namespace Node

/-- The payload in positional form; null has none. -/
def children? : Node → Option (List Value)
  | .quantity _ (.unit u) amount => some [.ofNumber amount, .ofUnit u]
  | .quantity _ _ amount => some [.ofNumber amount]
  | .text _ _ content => some [.ofText content]
  | .boolean _ flag => some [.payload flag.payload]
  | .null _ => none
  | .list _ items => some (items.map .node)
  | .argumentList _ items => some (items.map .node)
  | .range _ start stop _ => some [.node start, .node stop]
  | .attributeSelector _ name none _ => some [.node name]
  | .attributeSelector _ name (some value) _ => some [.node name, .node value]

/-- The least number of children from which a node of the same kind can be built. -/
def fewestChildren : Node → Nat
  | .quantity _ (.unit _) _ => 2
  | .quantity .. => 1
  | .text .. => 1
  | .boolean .. => 1
  | .null _ => 0
  | .list .. => 0
  | .argumentList .. => 0
  | .range .. => 2
  | .attributeSelector .. => 1

/-- The node with another payload, from at least `fewestChildren` children. -/
def ofChildren? : Node → List Value → Option Node
  | .quantity loc (.unit _) _, .payload (.number x) :: v :: _ =>
      v.toUnit?.map fun u => .quantity loc (.unit u) x
  | .quantity _ (.unit _) _, _ => none
  | .quantity loc measure _, .payload (.number x) :: _ => some (.quantity loc measure x)
  | .text loc role _, .payload (.text content) :: _ => some (.text loc role content)
  | .boolean loc _, .payload (.truth b) :: _ => some (.boolean loc (.truth b))
  | .boolean loc _, .payload (.number x) :: _ => some (.boolean loc (.number x))
  | .null loc, _ => some (.null loc)
  | .list loc _, children => (children.mapM Value.toNode?).map (.list loc)
  | .argumentList loc _, children => (children.mapM Value.toNode?).map (.argumentList loc)
  | .range loc _ _ exclusive, .node start :: .node stop :: _ =>
      some (.range loc start stop exclusive)
  | .attributeSelector loc _ _ operator, [.node name] =>
      some (.attributeSelector loc name none operator)
  | .attributeSelector loc _ _ operator, .node name :: .absent :: _ =>
      some (.attributeSelector loc name none operator)
  | .attributeSelector loc _ _ operator, .node name :: .node value :: _ =>
      some (.attributeSelector loc name (some value) operator)
  | _, _ => none

/-- The node of the same kind and location with the given children.  Children beyond those that the
kind has are left out. -/
def withChildren (n : Node) (children : List Value) : Except ShapeError Node :=
  if children.length < n.fewestChildren then
    .error .tooFewChildren
  else
    match n.ofChildren? children with
    | some m => .ok m
    | none => .error .mismatch

/-- The scalar of the same kind, location and unit with the given payload. -/
def withPayload (n : Node) (p : Payload) : Except ShapeError Node :=
  match n, p with
  | .quantity loc measure _, .number x => .ok (.quantity loc measure x)
  | .text loc role _, .text content => .ok (.text loc role content)
  | .boolean loc _, .truth b => .ok (.boolean loc (.truth b))
  | .boolean loc _, .number x => .ok (.boolean loc (.number x))
  | .quantity .., _ => .error .mismatch
  | .text .., _ => .error .mismatch
  | .boolean .., _ => .error .mismatch
  | _, _ => .error .notScalar

/-- The scalar of the same kind, location and unit with the given value as its payload. -/
def withValue (n : Node) (v : Value) : Except ShapeError Node :=
  match n.payload?, v with
  | none, _ => .error .notScalar
  | some _, .payload p => n.withPayload p
  | some _, _ => .error .mismatch

end Node

end StyleValue
