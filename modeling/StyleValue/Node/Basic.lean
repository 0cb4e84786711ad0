import StyleValue.Location
import StyleValue.Measure
import StyleValue.Number.Basic

/-!
# Value nodes

A `Node` is a value of the expression language with the place where it was written.  Scalars carry a
payload: a quantity an amount, with its measure; words, quoted strings and separators a text; a
boolean a flag.  Composites hold other nodes.

A `Value` is whatever an operation may be handed: a node, a bare payload, nothing, or a sequence of
values.
-/

namespace StyleValue

/-- The part a text plays. -/
inductive TextRole where
  /-- A bare word, as in `solid`. -/
  | identifier
  /-- A quoted string. -/
  | string
  /-- What stands between two items of a list. -/
  | separator
  deriving DecidableEq

/-- What a boolean carries: a truth value, or the number that a range has stepped to from one. -/
inductive Flag where
  | truth (b : Bool)
  | number (x : Number)
  deriving DecidableEq

/-- A value of the expression language. -/
inductive Node where
  | quantity (loc : Option Location) (measure : Measure) (amount : Number)
  | text (loc : Option Location) (role : TextRole) (content : String)
  | boolean (loc : Option Location) (flag : Flag)
  | null (loc : Option Location)
  /-- Items at the even positions, separators at the odd ones. -/
  | list (loc : Option Location) (items : List Node)
  | argumentList (loc : Option Location) (items : List Node)
  /-- The values from one bound to the other, the latter left out when the range is exclusive. -/
  | range (loc : Option Location) (start stop : Node) (exclusive : Bool)
  /-- A name, or a name with an operator and a value, as in `[name^=value]`. -/
  | attributeSelector (loc : Option Location) (name : Node) (value : Option Node)
      (operator : Option String)

/-- A value without structure. -/
inductive Payload where
  | number (x : Number)
  | text (content : String)
  | truth (b : Bool)
  deriving DecidableEq

/-- The two sorts of sequence, which differ in name only. -/
inductive SequenceForm where
  | list
  | tuple
  deriving DecidableEq

/-- What operations are handed and give back. -/
inductive Value where
  | payload (p : Payload)
  | absent
  | node (n : Node)
  | sequence (form : SequenceForm) (items : List Value)

def TextRole.kind : TextRole → Kind
  | identifier => .identifier
  | string => .string
  | separator => .separator

def Flag.payload : Flag → Payload
  | truth b => .truth b
  | number x => .number x

namespace Node

def kind : Node → Kind
  | quantity _ measure _ => measure.kind
  | text _ role _ => role.kind
  | boolean .. => .boolean
  | null _ => .null
  | list .. => .list
  | argumentList .. => .argumentList
  | range .. => .range
  | attributeSelector .. => .attributeSelector

/-- Where the node was written, if that is known. -/
def loc : Node → Option Location
  | quantity loc .. => loc
  | text loc .. => loc
  | boolean loc _ => loc
  | null loc => loc
  | list loc _ => loc
  | argumentList loc _ => loc
  | range loc .. => loc
  | attributeSelector loc .. => loc

/-- The payload of a scalar; of a dimension, its amount. -/
def payload? : Node → Option Payload
  | quantity _ _ amount => some (.number amount)
  | text _ _ content => some (.text content)
  | boolean _ flag => some flag.payload
  | _ => none

end Node

end StyleValue
