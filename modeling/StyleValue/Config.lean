import StyleValue.Node.Opposite

/-!
# Configuration

The constants that rendering and transforming values depend on.
-/

namespace StyleValue

/-- Directions and the directions across from them. -/
def Opposites.directions : Opposites :=
  [("left", "right"), ("right", "left"), ("top", "bottom"), ("bottom", "top")]

/-- The constants of rendering and transforming values. -/
structure Config where
  /-- How many fractional digits a plain number keeps. -/
  precision : Int
  /-- What stands between the items of an expanded range. -/
  rangeSeparator : String
  /-- What stands between arguments made into a list. -/
  argumentSeparator : String
  /-- The words that flipping a style sheet swaps. -/
  opposites : Opposites

/-- Three fractional digits, a blank between the items of a range, a comma between arguments, and
directions as opposites. -/
def Config.default : Config := ⟨3, " ", ",", .directions⟩

end StyleValue
