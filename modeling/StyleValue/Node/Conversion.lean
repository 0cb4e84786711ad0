import StyleValue.Config
import StyleValue.Number.Text

/-!
# Conversions of nodes

What a node is as a number, as a text and as a truth value.  A kind without a conversion gives
`none`.
-/

namespace StyleValue

/-- The plain text of a payload: numbers in their shortest form, booleans in lower case. -/
def Payload.render : Payload → String
  | .number x => x.shortText
  | .text content => content
  | .truth b => if b then "true" else "false"

namespace Node

/-- The amount of a quantity. -/
def toNumber? : Node → Option Number
  | .quantity _ _ amount => some amount
  | _ => none

/-- An amount with what it counts, in the shortest form. -/
def quantityText (measure : Measure) (amount : Number) : String :=
  amount.shortText ++ measure.suffix

/-- The text of a quantity, a word or a quoted string.  A plain number is rounded to the configured
number of fractional digits. -/
def toText? (config : Config) : Node → Except PrecisionError (Option String)
  | .quantity _ .plain amount => some <$> amount.fixedText? config.precision
  | .quantity _ measure amount => .ok (some (quantityText measure amount))
  | .text _ .identifier content => .ok (some content)
  | .text _ .string content => .ok (some content)
  | _ => .ok none

/-- The truth of a node: a boolean carries it; zero, not-a-number and the empty text are false; all
else is true. -/
def truth : Node → Flag
  | .boolean _ flag => flag
  | .quantity _ _ amount => .truth (!amount.isZero && !amount.isNaN)
  | .text _ .identifier content => .truth (content ≠ "")
  | .text _ .string content => .truth (content ≠ "")
  | _ => .truth true

end Node

end StyleValue
