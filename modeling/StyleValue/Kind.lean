/-!
# Kinds of values

Every value node is of one of twelve kinds.  Operators, conversions and messages speak of a value by
its kind.
-/

namespace StyleValue

/-- The kind of a value node. -/
inductive Kind where
  | number
  | percentage
  | dimension
  | identifier
  | string
  | boolean
  | separator
  | null
  | list
  | argumentList
  | range
  | attributeSelector
  deriving DecidableEq

namespace Kind

/-- All kinds. -/
def all : List Kind :=
  [number, percentage, dimension, identifier, string, boolean, separator, null, list, argumentList,
    range, attributeSelector]

/-- The kind as messages call it. -/
def name : Kind → String
  | number => "number"
  | percentage => "percentage"
  | dimension => "dimension"
  | identifier => "identifier"
  | string => "string"
  | boolean => "boolean"
  | separator => "separator"
  | null => "null"
  | list => "list"
  | argumentList => "argumentList"
  | range => "range"
  | attributeSelector => "attributeSelector"

/-- The kind of a given name. -/
def ofName? (name : String) : Option Kind :=
  all.find? fun kind => kind.name = name

/-- A kind is found by its name. -/
theorem ofName?_name (kind : Kind) :
  ofName? kind.name = some kind
  := by
  cases kind <;> rfl

end Kind

end StyleValue
