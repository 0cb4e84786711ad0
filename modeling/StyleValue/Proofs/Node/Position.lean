import StyleValue.Proofs.Node.Forget

/-!
# Positions in a node

A position leads from a node to one inside it.  It is a list of numbers, and each of them says which
of the nodes directly inside is entered (`Node.at?`).  What a node is apart from the nodes inside it
is its hollow, `Node.hollow`.  A node is determined by the hollows at all its positions
(`Node.eq_of_at?`).
-/

namespace StyleValue

namespace Node

/-- The nodes directly inside a node, in their order. -/
def inner : Node → List Node
  | .list _ items => items
  | .argumentList _ items => items
  | .range _ start stop _ => [start, stop]
  | .attributeSelector _ name value _ => name :: value.toList
  | _ => []

/-- The node with blanks in the places of the nodes directly inside it. -/
def hollow : Node → Node
  | .list loc items => .list loc (List.replicate items.length blank)
  | .argumentList loc items => .argumentList loc (List.replicate items.length blank)
  | .range loc _ _ exclusive => .range loc blank blank exclusive
  | .attributeSelector loc _ value operator =>
      .attributeSelector loc blank (value.map fun _ => blank) operator
  | n => n

/-- The node at a position. -/
def at? (n : Node) : List Nat → Option Node
  | [] => some n
  | i :: rest => n.inner[i]?.bind fun m => m.at? rest

@[simp]
theorem at?_nil (n : Node) :
  n.at? [] = some n
  := rfl

theorem at?_cons (n : Node) (i : Nat) (rest : List Nat) :
  n.at? (i :: rest) = n.inner[i]?.bind fun m => m.at? rest
  := rfl

/-! ### Induction on the nodes inside -/

theorem sizeOf_lt_of_mem_inner {m n : Node} (h : m ∈ n.inner) :
  sizeOf m < sizeOf n
  := by
  cases n with
  | list loc items =>
      have smaller : sizeOf m < sizeOf items := List.sizeOf_lt_of_mem h
      rw [list.sizeOf_spec]
      omega
  | argumentList loc items =>
      have smaller : sizeOf m < sizeOf items := List.sizeOf_lt_of_mem h
      rw [argumentList.sizeOf_spec]
      omega
  | range loc start stop exclusive =>
      rw [range.sizeOf_spec]
      rcases List.mem_cons.mp h with rfl | isStop
      · omega
      · obtain rfl := List.mem_singleton.mp isStop
        omega
  | attributeSelector loc name value operator =>
      rw [attributeSelector.sizeOf_spec]
      rcases List.mem_cons.mp h with rfl | isValue
      · omega
      · obtain rfl := Option.mem_toList.mp isValue
        rw [Option.some.sizeOf_spec]
        omega
  | _ => cases h

/-- What holds of a node whenever it holds of the nodes directly inside it holds of all nodes. -/
@[elab_as_elim]
theorem inner_induction {motive : Node → Prop}
    (step : ∀ n, (∀ m ∈ n.inner, motive m) → motive n) (n : Node) :
  motive n
  := step n fun m _ => inner_induction step m
termination_by sizeOf n
decreasing_by
  apply sizeOf_lt_of_mem_inner
  assumption

/-! ### Nodes from their hollows -/

theorem eq_of_hollow {a b : Node} (outside : a.hollow = b.hollow) (inside : a.inner = b.inner) :
  a = b
  := by
  cases a with
  | list loc items =>
      cases b with
      | list loc' items' =>
          obtain ⟨rfl, -⟩ := list.inj outside
          exact congrArg (list loc) inside
      | _ => cases outside
  | argumentList loc items =>
      cases b with
      | argumentList loc' items' =>
          obtain ⟨rfl, -⟩ := argumentList.inj outside
          exact congrArg (argumentList loc) inside
      | _ => cases outside
  | range loc start stop exclusive =>
      cases b with
      | range loc' start' stop' exclusive' =>
          obtain ⟨rfl, -, -, rfl⟩ := range.inj outside
          obtain ⟨⟩ := inside
          rfl
      | _ => cases outside
  | attributeSelector loc name value operator =>
      cases b with
      | attributeSelector loc' name' value' operator' =>
          obtain ⟨rfl, -, -, rfl⟩ := attributeSelector.inj outside
          obtain ⟨rfl, sameValue⟩ := List.cons.inj inside
          have same := congrArg List.head? sameValue
          rw [Option.head?_toList, Option.head?_toList] at same
          rw [same]
      | _ => cases outside
  | quantity =>
      cases b with
      | quantity => exact outside
      | _ => cases outside
  | text =>
      cases b with
      | text => exact outside
      | _ => cases outside
  | boolean =>
      cases b with
      | boolean => exact outside
      | _ => cases outside
  | null =>
      cases b with
      | null => exact outside
      | _ => cases outside

/-- Nodes that are the same at each position, apart from the nodes inside, are the same. -/
theorem eq_of_at? {a b : Node} (h : ∀ p, (a.at? p).map hollow = (b.at? p).map hollow) :
  a = b
  := by
  induction a using inner_induction generalizing b with
  | step a ih =>
      apply eq_of_hollow
      · exact Option.some.inj (h [])
      · apply List.ext_getElem?
        intro i
        have entered := fun rest => h (i :: rest)
        simp only [at?_cons] at entered
        cases ha : a.inner[i]? with
        | none =>
            cases hb : b.inner[i]? with
            | none => rfl
            | some m' => simpa [ha, hb] using entered []
        | some m =>
            cases hb : b.inner[i]? with
            | none => simpa [ha, hb] using entered []
            | some m' =>
                simp only [ha, hb, Option.bind_some] at entered
                rw [ih m (List.mem_of_getElem? ha) entered]

end Node

end StyleValue
