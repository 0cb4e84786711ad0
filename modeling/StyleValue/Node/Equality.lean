import StyleValue.Node.Children

/-!
# Two equalities of values

`Value.equal` is the equality of the expression language.  It looks at kinds and payloads, keeps
booleans apart from numbers and does not distinguish the two sorts of sequence.  Of a range it
compares only whether it is exclusive, and of an attribute selector only the operator.

`Value.sameFields` compares values field by field; it counts a bare truth value as a number and
keeps the sorts of sequence apart.

Neither looks at locations.
-/

namespace StyleValue

namespace Payload

/-- Equality in the language: within one sort only. -/
def equal : Payload → Payload → Bool
  | .number a, .number b => a.equals b
  | .text s, .text t => s = t
  | .truth b, .truth c => b = c
  | _, _ => false

/-- The number that a payload counts as: true is one and false is zero. -/
def toNumber? : Payload → Option Number
  | .number x => some x
  | .truth b => some (.int (if b then 1 else 0))
  | .text _ => none

/-- Equality in which truth values count as numbers. -/
def sameFields : Payload → Payload → Bool
  | .text s, .text t => s = t
  | p, q =>
      match p.toNumber?, q.toNumber? with
      | some a, some b => a.equals b
      | _, _ => false

end Payload

/-! ### The equality of the language -/

mutual

/-- Equality of nodes in the language. -/
def Node.equal : Node → Node → Bool
  | .quantity _ measure amount, .quantity _ measure' amount' =>
      measure = measure' && amount.equals amount'
  | .text _ role content, .text _ role' content' => role = role' && content = content'
  | .boolean _ flag, .boolean _ flag' => flag.payload.equal flag'.payload
  | .null _, .null _ => true
  | .list _ items, .list _ items' => Node.equalAll items items'
  | .argumentList _ items, .argumentList _ items' => Node.equalAll items items'
  | .range _ _ _ exclusive, .range _ _ _ exclusive' => exclusive = exclusive'
  | .attributeSelector _ _ _ operator, .attributeSelector _ _ _ operator' => operator = operator'
  | _, _ => false

/-- Item-wise equality in the language. -/
def Node.equalAll : List Node → List Node → Bool
  | [], [] => true
  | a :: as, b :: bs => a.equal b && Node.equalAll as bs
  | _, _ => false

end

mutual

/-- Equality of values in the language. -/
def Value.equal : Value → Value → Bool
  | .payload p, .payload q => p.equal q
  | .absent, .absent => true
  | .node a, .node b => a.equal b
  | .sequence _ items, .sequence _ items' => Value.equalAll items items'
  | _, _ => false

/-- Item-wise equality in the language. -/
def Value.equalAll : List Value → List Value → Bool
  | [], [] => true
  | a :: as, b :: bs => a.equal b && Value.equalAll as bs
  | _, _ => false

end

/-! ### Equality field by field -/

mutual

/-- Equality of nodes field by field. -/
def Node.sameFields : Node → Node → Bool
  | .quantity _ measure amount, .quantity _ measure' amount' =>
      measure = measure' && amount.equals amount'
  | .text _ role content, .text _ role' content' => role = role' && content = content'
  | .boolean _ flag, .boolean _ flag' => flag.payload.sameFields flag'.payload
  | .null _, .null _ => true
  | .list _ items, .list _ items' => Node.sameFieldsAll items items'
  | .argumentList _ items, .argumentList _ items' => Node.sameFieldsAll items items'
  | .range _ start stop exclusive, .range _ start' stop' exclusive' =>
      start.sameFields start' && stop.sameFields stop' && exclusive = exclusive'
  | .attributeSelector _ name value operator, .attributeSelector _ name' value' operator' =>
      name.sameFields name' && Node.sameFieldsOption value value' && operator = operator'
  | _, _ => false

/-- Item-wise equality field by field. -/
def Node.sameFieldsAll : List Node → List Node → Bool
  | [], [] => true
  | a :: as, b :: bs => a.sameFields b && Node.sameFieldsAll as bs
  | _, _ => false

/-- Equality field by field of nodes that may be absent. -/
def Node.sameFieldsOption : Option Node → Option Node → Bool
  | none, none => true
  | some a, some b => a.sameFields b
  | _, _ => false

end

mutual

/-- Equality of values field by field. -/
def Value.sameFields : Value → Value → Bool
  | .payload p, .payload q => p.sameFields q
  | .absent, .absent => true
  | .node a, .node b => a.sameFields b
  | .sequence form items, .sequence form' items' => form = form' && Value.sameFieldsAll items items'
  | _, _ => false

/-- Item-wise equality field by field. -/
def Value.sameFieldsAll : List Value → List Value → Bool
  | [], [] => true
  | a :: as, b :: bs => a.sameFields b && Value.sameFieldsAll as bs
  | _, _ => false

end

end StyleValue
