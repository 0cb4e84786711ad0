import StyleValue.Decimal.Basic

/-!
# Locations

A location says where in a style sheet something stands.  It is carried along and shown, and never
interpreted.
-/

namespace StyleValue

/-- A place in a style sheet: a line counted from one, a column counted from zero, and the name of
the file if it is known. -/
structure Location where
  line : Int
  column : Int
  file : Option String
  deriving DecidableEq

namespace Location

/-- The name shown for a style sheet without one. -/
def unnamed : String := "<stylesheet>"

/-- The name of the style sheet; an empty name counts as none. -/
def sheetName (l : Location) : String :=
  match l.file with
  | some name => if name = "" then unnamed else name
  | none => unnamed

/-- The location as it is shown: name, line and column. -/
def text (l : Location) : String :=
  l.sheetName ++ ":" ++ (Decimal.ofInt l.line).plain ++ ":" ++ (Decimal.ofInt l.column).plain

end Location

end StyleValue
