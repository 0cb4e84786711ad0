import StyleValue.Node.Basic

/-!
# Opposite values

Flipping a style sheet swaps directional words such as `left` and `right`.  A swap reaches a word
or a quoted string at the top, and the items of a list, but not its separators and not the inside of
any other composite.
-/

namespace StyleValue

/-- Words with the words that replace them, each word at most once. -/
abbrev Opposites : Type := List (String × String)

/-- The word that replaces a given one; a word that is not listed stays. -/
def Opposites.apply (opposites : Opposites) (word : String) : String :=
  (opposites.lookup word).getD word

namespace Node

mutual

/-- The node with its words swapped. -/
def opposite (swap : String → String) : Node → Node
  | .text loc .identifier content => .text loc .identifier (swap content)
  | .text loc .string content => .text loc .string (swap content)
  | .list loc items => .list loc (oppositeItems swap items)
  | n => n

/-- The nodes with the words in those at even positions swapped. -/
def oppositeItems (swap : String → String) : List Node → List Node
  | [] => []
  | item :: rest => opposite swap item :: keepSeparator swap rest

/-- The nodes with the words in those at odd positions swapped. -/
def keepSeparator (swap : String → String) : List Node → List Node
  | [] => []
  | separator :: rest => separator :: oppositeItems swap rest

end

end Node

end StyleValue
