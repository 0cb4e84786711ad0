import StyleValue.Node.Basic

/-!
# Nodes inside a node

`Node.within` lists a node and the nodes inside it at every depth.  What a node has to be throughout
is said of all of them: `Node.IsWellFormed`, that booleans carry truth values; `Node.IsFinite`, that
amounts are finite.
-/

namespace StyleValue

namespace Node

mutual

/-- The node and the nodes inside it, at every depth. -/
def within : Node → List Node
  | .list loc items => .list loc items :: withinAll items
  | .argumentList loc items => .argumentList loc items :: withinAll items
  | .range loc start stop exclusive =>
      .range loc start stop exclusive :: (start.within ++ stop.within)
  | .attributeSelector loc name value operator =>
      .attributeSelector loc name value operator :: (name.within ++ withinOption value)
  | n => [n]

/-- The nodes and those inside them. -/
def withinAll : List Node → List Node
  | [] => []
  | n :: rest => n.within ++ withinAll rest

/-- The node and the nodes inside it, if there is one. -/
def withinOption : Option Node → List Node
  | none => []
  | some n => n.within

end

theorem mem_within_self (n : Node) :
  n ∈ n.within
  := by
  cases n <;> apply List.mem_cons_self

/-- A boolean carries a truth value.  What the other kinds carry is of the right sort by
construction. -/
def isTruthful : Node → Bool
  | .boolean _ (.number _) => false
  | _ => true

/-- An amount is a finite number. -/
def hasFiniteAmount : Node → Bool
  | .quantity _ _ amount => !amount.isNaN && !amount.isInfinite
  | _ => true

/-- The booleans in the node carry truth values. -/
def IsWellFormed (n : Node) : Prop := ∀ m ∈ n.within, m.isTruthful

instance (n : Node) : Decidable n.IsWellFormed :=
  inferInstanceAs (Decidable (∀ m ∈ n.within, m.isTruthful))

/-- The amounts in the node are finite. -/
def IsFinite (n : Node) : Prop := ∀ m ∈ n.within, m.hasFiniteAmount

instance (n : Node) : Decidable n.IsFinite :=
  inferInstanceAs (Decidable (∀ m ∈ n.within, m.hasFiniteAmount))

theorem IsWellFormed.exists_truth {loc : Option Location} {flag : Flag}
    (h : (boolean loc flag).IsWellFormed) :
  ∃ b, flag = .truth b
  := by
  have truthful := h _ (mem_within_self _)
  cases flag with
  | truth b => exact ⟨b, rfl⟩
  | number x => cases truthful

end Node

end StyleValue
