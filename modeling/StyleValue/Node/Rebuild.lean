import StyleValue.Node.Children

/-!
# Rebuilding values

A value is built anew from its parts: a sequence from its items, and a node from its children, by
`Node.withChildren`.  A deep rebuild builds the children of a node anew as well, a shallow one takes
them over.

The depth of a value bounds the recursion.  A node lies deeper than its children, whether these are
nodes or what scalars carry.
-/

namespace StyleValue

mutual

/-- How deeply other nodes are nested in a node. -/
def Node.depth : Node → Nat
  | .list _ items => Node.depthAll items + 1
  | .argumentList _ items => Node.depthAll items + 1
  | .range _ start stop _ => max start.depth stop.depth + 1
  | .attributeSelector _ name value _ => max name.depth (Node.depthOption value) + 1
  | _ => 0

/-- The depth of the deepest node. -/
def Node.depthAll : List Node → Nat
  | [] => 0
  | n :: rest => max n.depth (Node.depthAll rest)

/-- The depth of the node, if there is one. -/
def Node.depthOption : Option Node → Nat
  | none => 0
  | some n => n.depth

end

mutual

/-- How deeply other values are nested in a value.  The unit of a dimension may be a list of parts,
so that a scalar has two levels. -/
def Value.depth : Value → Nat
  | .payload _ => 0
  | .absent => 0
  | .node n => n.depth + 2
  | .sequence _ items => Value.depthAll items + 1

/-- The depth of the deepest value. -/
def Value.depthAll : List Value → Nat
  | [] => 0
  | v :: rest => max v.depth (Value.depthAll rest)

end

theorem Node.depth_le_depthAll {n : Node} {nodes : List Node} (h : n ∈ nodes) :
  n.depth ≤ depthAll nodes
  := by
  induction nodes with
  | nil => cases h
  | cons m rest ih =>
      rw [depthAll]
      rcases List.mem_cons.mp h with rfl | inRest
      · apply Nat.le_max_left
      · exact Nat.le_trans (ih inRest) (Nat.le_max_right _ _)

namespace Value

theorem depth_le_depthAll {v : Value} {values : List Value} (h : v ∈ values) :
  v.depth ≤ depthAll values
  := by
  induction values with
  | nil => cases h
  | cons w rest ih =>
      rw [depthAll]
      rcases List.mem_cons.mp h with rfl | inRest
      · apply Nat.le_max_left
      · exact Nat.le_trans (ih inRest) (Nat.le_max_right _ _)

theorem depthAll_map_ofUnitPart (parts : List UnitPart) :
  depthAll (parts.map ofUnitPart) = 0
  := by
  induction parts with
  | nil => rfl
  | cons part rest ih =>
      rw [List.map_cons, depthAll, ih]
      cases part <;> rfl

theorem depth_ofUnit_le (u : UnitOfMeasure) :
  (ofUnit u).depth ≤ 1
  := by
  cases u with
  | compound parts => exact Nat.le_of_eq (congrArg (· + 1) (depthAll_map_ofUnitPart parts))
  | _ => apply Nat.zero_le

theorem depth_lt_sequence {v : Value} {items : List Value} (form : SequenceForm) (h : v ∈ items) :
  v.depth < (sequence form items).depth
  := Nat.lt_succ_of_le (depth_le_depthAll h)

/-- A node is deeper than its children. -/
theorem depth_lt_node {n : Node} {children : List Value} (h : n.children? = some children)
    {v : Value} (inside : v ∈ children) :
  v.depth < (node n).depth
  := by
  have deeper (m : Node) (le : m.depth + 1 ≤ n.depth) : (node m).depth < (node n).depth := by
    rw [depth, depth]
    omega
  cases n with
  | quantity loc measure amount =>
      have shallow : v.depth ≤ 1 := by
        cases measure with
        | unit u =>
            cases h
            rcases List.mem_cons.mp inside with rfl | isUnit
            · apply Nat.zero_le
            · obtain rfl := List.mem_singleton.mp isUnit
              apply depth_ofUnit_le
        | _ =>
            cases h
            obtain rfl := List.mem_singleton.mp inside
            apply Nat.zero_le
      exact Nat.lt_of_le_of_lt shallow (Nat.lt_succ_self 1)
  | text =>
      cases h
      obtain rfl := List.mem_singleton.mp inside
      apply Nat.zero_lt_succ
  | boolean =>
      cases h
      obtain rfl := List.mem_singleton.mp inside
      apply Nat.zero_lt_succ
  | null => cases h
  | list loc items =>
      cases h
      obtain ⟨m, mem, rfl⟩ := List.mem_map.mp inside
      exact deeper m (Nat.succ_le_succ (Node.depth_le_depthAll mem))
  | argumentList loc items =>
      cases h
      obtain ⟨m, mem, rfl⟩ := List.mem_map.mp inside
      exact deeper m (Nat.succ_le_succ (Node.depth_le_depthAll mem))
  | range loc start stop exclusive =>
      cases h
      rcases List.mem_cons.mp inside with rfl | isStop
      · exact deeper start (Nat.succ_le_succ (Nat.le_max_left _ _))
      · obtain rfl := List.mem_singleton.mp isStop
        exact deeper stop (Nat.succ_le_succ (Nat.le_max_right _ _))
  | attributeSelector loc name value operator =>
      have ofName := deeper name (Nat.succ_le_succ (Nat.le_max_left _ _))
      cases value with
      | none =>
          cases h
          obtain rfl := List.mem_singleton.mp inside
          exact ofName
      | some content =>
          cases h
          rcases List.mem_cons.mp inside with rfl | isContent
          · exact ofName
          · obtain rfl := List.mem_singleton.mp isContent
            exact deeper content (Nat.succ_le_succ (Nat.le_max_right _ _))

/-- The value built anew.  A node without children is taken as it is. -/
def rebuild (deep : Bool) : Value → Except ShapeError Value
  | .payload p => .ok (.payload p)
  | .absent => .ok .absent
  | .sequence form items => do
      let rebuilt ← items.attach.mapM fun ⟨item, _⟩ => item.rebuild deep
      return .sequence form rebuilt
  | .node n =>
      match _taken : n.children? with
      | none => .ok (.node n)
      | some children => do
          let rebuilt ←
            (if deep then children.attach.mapM fun ⟨child, _⟩ => child.rebuild deep
              else .ok children)
          return .node (← n.withChildren rebuilt)
termination_by v => v.depth
decreasing_by
  · exact depth_lt_sequence form ‹_›
  · exact depth_lt_node ‹_› ‹_›

end Value

end StyleValue
