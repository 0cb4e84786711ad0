import StyleValue.Node.Children

/-!
# Children

A node that is given its own children is the same node (`Node.withChildren_of_children?`): what its
children do not show is kept.
-/

namespace StyleValue

/-- What is found again in the image of each item is found again in the images of all. -/
theorem mapM_map_eq_some {α β : Type} {image : α → β} {find? : β → Option α}
    (h : ∀ a, find? (image a) = some a) (items : List α) :
  (items.map image).mapM find? = some items
  := by
  induction items with
  | nil => rfl
  | cons a rest ih =>
      rw [List.map_cons, List.mapM_cons, ih, h]
      rfl

namespace Value

theorem toUnitPart?_ofUnitPart (part : UnitPart) :
  (ofUnitPart part).toUnitPart? = some part
  := by
  cases part <;> rfl

/-- A unit is found again in the value that shows it. -/
theorem toUnit?_ofUnit (u : UnitOfMeasure) :
  (ofUnit u).toUnit? = some u
  := by
  cases u with
  | compound parts =>
      rw [ofUnit, toUnit?, mapM_map_eq_some toUnitPart?_ofUnitPart]
      rfl
  | _ => rfl

theorem mapM_toNode?_map_node (nodes : List Node) :
  (nodes.map node).mapM toNode? = some nodes
  := by
  apply mapM_map_eq_some
  intro n
  rfl

end Value

namespace Node

/-- A node has as many children as its kind has at least. -/
theorem fewestChildren_le_of_children? {n : Node} {children : List Value}
    (h : n.children? = some children) :
  n.fewestChildren ≤ children.length
  := by
  cases n with
  | quantity _ measure _ => cases measure <;> cases h <;> apply Nat.le_refl
  | attributeSelector _ _ value _ => cases value <;> cases h <;> apply Nat.le_add_left
  | null => cases h
  | list => apply Nat.zero_le
  | argumentList => apply Nat.zero_le
  | _ =>
      cases h
      apply Nat.le_refl

theorem ofChildren?_of_children? {n : Node} {children : List Value}
    (h : n.children? = some children) :
  n.ofChildren? children = some n
  := by
  cases n with
  | quantity _ measure _ =>
      cases measure with
      | unit u =>
          cases h
          rw [Value.ofNumber, ofChildren?, Value.toUnit?_ofUnit]
          rfl
      | _ =>
          cases h
          rfl
  | boolean _ flag => cases flag <;> cases h <;> rfl
  | null => cases h
  | list _ items =>
      cases h
      rw [ofChildren?, Value.mapM_toNode?_map_node]
      rfl
  | argumentList _ items =>
      cases h
      rw [ofChildren?, Value.mapM_toNode?_map_node]
      rfl
  | attributeSelector _ _ value _ => cases value <;> cases h <;> rfl
  | _ =>
      cases h
      rfl

/-- A node that is given its own children is the same node. -/
theorem withChildren_of_children? {n : Node} {children : List Value}
    (h : n.children? = some children) :
  n.withChildren children = .ok n
  := by
  have enough := Nat.not_lt.mpr (fewestChildren_le_of_children? h)
  rw [withChildren, if_neg enough, ofChildren?_of_children? h]

end Node

end StyleValue
