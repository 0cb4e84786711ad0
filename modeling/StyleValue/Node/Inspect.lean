import StyleValue.Node.Conversion

/-!
# Values in full

`Value.inspect` writes a value with the name of its kind and all its fields but the location, as in
`Dimension(value=2, unit='px')`.  `Value.render` is the plain text of a value: texts as they are,
booleans in lower case, numbers in their shortest form, and nodes in full.
-/

namespace StyleValue

open Literal (application argument)

/-- A sequence between its brackets. -/
def SequenceForm.literal : SequenceForm → List String → String
  | list => Literal.list
  | tuple => Literal.tuple

/-- The payload as a literal. -/
def Payload.inspect : Payload → String
  | .number x => x.literal
  | .text content => Text.quoted content
  | .truth b => Literal.truth b

/-- The name of a kind in full texts. -/
def Kind.title : Kind → String
  | .number => "Number"
  | .percentage => "Percentage"
  | .dimension => "Dimension"
  | .identifier => "Identifier"
  | .string => "String"
  | .boolean => "Boolean"
  | .separator => "Separator"
  | .null => "Null"
  | .list => "List"
  | .argumentList => "ArgumentList"
  | .range => "Range"
  | .attributeSelector => "AttributeSelector"

mutual

/-- The node in full. -/
def Node.inspect : Node → String
  | .quantity _ (.unit u) amount =>
      application (Kind.title .dimension)
        [argument "value" amount.literal, argument "unit" u.literal]
  | .quantity _ measure amount => application measure.kind.title [argument "value" amount.literal]
  | .text _ role content => application role.kind.title [argument "value" (Text.quoted content)]
  | .boolean _ flag => application (Kind.title .boolean) [argument "value" flag.payload.inspect]
  | .null _ => application (Kind.title .null) []
  | .list _ items =>
      application (Kind.title .list)
        [argument "items" (Literal.tuple (Node.inspectAll items))]
  | .argumentList _ items =>
      application (Kind.title .argumentList)
        [argument "items" (Literal.tuple (Node.inspectAll items))]
  | .range _ start stop exclusive =>
      application (Kind.title .range)
        [argument "start" start.inspect, argument "end" stop.inspect,
          argument "exclusive" (Literal.truth exclusive)]
  | .attributeSelector _ name value operator =>
      application (Kind.title .attributeSelector)
        [argument "name" name.inspect, argument "value" (Node.inspectOption value),
          argument "operator" (operator.elim Literal.absent Text.quoted)]

/-- The items in full. -/
def Node.inspectAll : List Node → List String
  | [] => []
  | n :: rest => n.inspect :: Node.inspectAll rest

/-- The node in full, if there is one. -/
def Node.inspectOption : Option Node → String
  | none => Literal.absent
  | some n => n.inspect

end

mutual

/-- The value in full. -/
def Value.inspect : Value → String
  | .payload p => p.inspect
  | .absent => Literal.absent
  | .node n => n.inspect
  | .sequence form items => form.literal (Value.inspectAll items)

/-- The items in full. -/
def Value.inspectAll : List Value → List String
  | [] => []
  | v :: rest => v.inspect :: Value.inspectAll rest

end

/-- The plain text of a value. -/
def Value.render : Value → String
  | .payload p => p.render
  | v => v.inspect

end StyleValue
