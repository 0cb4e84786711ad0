import StyleValue.Text.Quoted

/-!
# Literals

The full texts of values: nothing and the truth values by their names, sequences between brackets,
and constructors with named arguments.
-/

namespace StyleValue.Literal

/-- The name of nothing. -/
def absent : String := "None"

/-- The name of a truth value. -/
def truth (b : Bool) : String := if b then "True" else "False"

/-- Texts one after the other, with a comma and a blank between them. -/
def commaSeparated (texts : List String) : String := String.intercalate ", " texts

/-- A list between square brackets. -/
def list (items : List String) : String := "[" ++ commaSeparated items ++ "]"

/-- A tuple between parentheses; a single item keeps a comma after it. -/
def tuple : List String → String
  | [item] => "(" ++ item ++ ",)"
  | items => "(" ++ commaSeparated items ++ ")"

/-- A constructor with its arguments. -/
def application (name : String) (arguments : List String) : String :=
  name ++ "(" ++ commaSeparated arguments ++ ")"

/-- An argument with its name. -/
def argument (name value : String) : String := name ++ "=" ++ value

end StyleValue.Literal
