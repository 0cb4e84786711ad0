import StyleValue.Config
import StyleValue.Proofs.Node.Position
import StyleValue.Proofs.Node.Separated

/-!
# Opposites

Swapping words in a node replaces the texts of the words and quoted strings that are reached through
items of lists only, and nothing else (`Node.opposite_replaces`).  Swapping twice is swapping once
along both maps, so it restores all nodes when the map restores all words
(`Node.opposite_composes`).
-/

namespace StyleValue

/-- The word that a map of words has for a given one; a word without an entry stays. -/
def replacement (other? : String → Option String) (word : String) : String :=
  (other? word).getD word

/-- A configuration replaces words along the map that looks them up. -/
theorem Opposites.apply_eq_replacement (opposites : Opposites) :
  opposites.apply = replacement fun word => opposites.lookup word
  := rfl

/-- The words that two maps replace one after the other. -/
def Opposites.andThen (first second : Opposites) : Opposites :=
  (first.map fun (word, other) => (word, second.apply other)) ++ second

theorem Opposites.apply_andThen (first second : Opposites) (word : String) :
  (first.andThen second).apply word = second.apply (first.apply word)
  := by
  induction first with
  | nil => rfl
  | cons entry rest ih =>
      obtain ⟨key, other⟩ := entry
      simp only [andThen, apply, List.map_cons, List.cons_append, List.lookup_cons] at ih ⊢
      split
      · rfl
      · exact ih

/-- Directions are opposite to each other. -/
theorem Opposites.apply_apply_directions (word : String) :
  directions.apply (directions.apply word) = word
  := by
  by_cases known : word ∈ ["left", "right", "top", "bottom"]
  · simp only [List.mem_cons, List.not_mem_nil, or_false] at known
    rcases known with rfl | rfl | rfl | rfl <;> rfl
  · have stays : directions.apply word = word := by
      simp only [List.mem_cons, List.not_mem_nil, or_false, not_or] at known
      obtain ⟨left, right, top, bottom⟩ := known
      simp [apply, directions, List.lookup_cons, beq_false_of_ne left, beq_false_of_ne right,
        beq_false_of_ne top, beq_false_of_ne bottom]
    rw [stays, stays]

namespace Node

/-- The node with its own text replaced if it is a word or a quoted string. -/
def reworded (swap : String → String) : Node → Node
  | .text loc .identifier content => .text loc .identifier (swap content)
  | .text loc .string content => .text loc .string (swap content)
  | n => n

/-- Whether a position leads through lists only, and in each of them to an item. -/
def isItemPosition (n : Node) : List Nat → Bool
  | [] => true
  | i :: rest => n.kind = .list && i % 2 = 0 && n.inner[i]?.any fun m => m.isItemPosition rest

theorem isItemPosition_cons {n m : Node} {i : Nat} (h : n.inner[i]? = some m) (rest : List Nat) :
  n.isItemPosition (i :: rest) = (decide (n.kind = .list ∧ i % 2 = 0) && m.isItemPosition rest)
  := by
  rw [isItemPosition, h, Option.any_some, Bool.decide_and]

/-! ### Where words are replaced -/

mutual

/-- The words of the nodes at even positions are swapped. -/
theorem getElem?_oppositeItems (swap : String → String) :
    ∀ (nodes : List Node) (i : Nat),
      (oppositeItems swap nodes)[i]?
        = nodes[i]?.map fun m => if i % 2 = 0 then m.opposite swap else m
  | [], _ => rfl
  | _ :: _, 0 => rfl
  | _ :: rest, i + 1 => by
      have parity : (i + 1) % 2 = 0 ↔ i % 2 = 1 := by omega
      simp only [oppositeItems, List.getElem?_cons_succ, getElem?_keepSeparator swap rest i, parity]

theorem getElem?_keepSeparator (swap : String → String) :
    ∀ (nodes : List Node) (i : Nat),
      (keepSeparator swap nodes)[i]?
        = nodes[i]?.map fun m => if i % 2 = 1 then m.opposite swap else m
  | [], _ => rfl
  | _ :: _, 0 => rfl
  | _ :: rest, i + 1 => by
      have parity : (i + 1) % 2 = 1 ↔ i % 2 = 0 := by omega
      simp only [keepSeparator, List.getElem?_cons_succ, getElem?_oppositeItems swap rest i, parity]

end

mutual

theorem length_oppositeItems (swap : String → String) :
    ∀ nodes : List Node, (oppositeItems swap nodes).length = nodes.length
  | [] => rfl
  | _ :: rest => congrArg (· + 1) (length_keepSeparator swap rest)

theorem length_keepSeparator (swap : String → String) :
    ∀ nodes : List Node, (keepSeparator swap nodes).length = nodes.length
  | [] => rfl
  | _ :: rest => congrArg (· + 1) (length_oppositeItems swap rest)

end

/-- Apart from the nodes inside, a node and its opposite differ in the text only. -/
theorem hollow_opposite (swap : String → String) (n : Node) :
  (n.opposite swap).hollow = (n.reworded swap).hollow
  := by
  cases n with
  | list loc items =>
      rw [opposite, reworded, hollow, hollow, length_oppositeItems]
      all_goals rintro _ _ ⟨⟩
  | text _ role _ => cases role <;> rfl
  | _ => rfl

/-- Of the nodes directly inside, only the items of a list are swapped. -/
theorem getElem?_inner_opposite (swap : String → String) (n : Node) (i : Nat) :
  (n.opposite swap).inner[i]?
    = n.inner[i]?.map fun m => if n.kind = .list ∧ i % 2 = 0 then m.opposite swap else m
  := by
  cases n with
  | list loc items =>
      rw [opposite, inner, getElem?_oppositeItems]
      simp [inner, kind]
  | text _ role _ => cases role <;> rfl
  | quantity _ measure _ => cases measure <;> rfl
  | _ => simp [opposite, kind]

/-- At a position reached through items there is the opposite of what was there, and at any other
position the same node as before. -/
theorem at?_opposite (swap : String → String) (n : Node) (p : List Nat) :
  (n.opposite swap).at? p
    = (n.at? p).map fun m => if n.isItemPosition p then m.opposite swap else m
  := by
  induction p generalizing n with
  | nil => rfl
  | cons i rest ih =>
      rw [at?_cons, at?_cons, getElem?_inner_opposite]
      cases entered : n.inner[i]? with
      | none => rfl
      | some m =>
          rw [Option.map_some, Option.bind_some, Option.bind_some, isItemPosition_cons entered]
          by_cases isItem : n.kind = .list ∧ i % 2 = 0
          · simp only [isItem, and_self, if_true, decide_true, Bool.true_and]
            apply ih
          · simp only [isItem, if_false, decide_false, Bool.false_and, Bool.false_eq_true]
            rw [Option.map_id']

theorem hollow_at?_opposite (swap : String → String) (n : Node) (p : List Nat) :
  ((n.opposite swap).at? p).map hollow
    = (n.at? p).map fun m => (if n.isItemPosition p then m.reworded swap else m).hollow
  := by
  rw [at?_opposite, Option.map_map]
  congr 1
  funext m
  rw [Function.comp_apply]
  split
  · apply hollow_opposite
  · rfl

/-- The opposite is the one node that differs from the given one in the texts of words and quoted
strings at the positions reached through items. -/
theorem eq_opposite_iff (swap : String → String) (n m : Node) :
  m = n.opposite swap
    ↔ ∀ p, (m.at? p).map hollow
      = (n.at? p).map fun part => (if n.isItemPosition p then part.reworded swap else part).hollow
  := by
  constructor
  · rintro rfl
    apply hollow_at?_opposite
  · intro h
    apply eq_of_at?
    intro p
    rw [h, hollow_at?_opposite]

/-- The items of the opposite of a list are the opposites of its items. -/
theorem evens_oppositeItems (swap : String → String) (nodes : List Node) :
  evens (oppositeItems swap nodes) = (evens nodes).map (opposite swap)
  := by
  apply List.ext_getElem?
  intro i
  rw [List.getElem?_map, getElem?_evens, getElem?_evens, getElem?_oppositeItems]
  simp only [Nat.mul_mod_right, if_true]

/-- Exactly the words and quoted strings that are reached through items of lists are replaced.
At every other position the opposite has the same node as before.  The items of the opposite of a
list are the opposites of its items. -/
theorem opposite_replaces (other? : String → Option String) :
  (∀ n m : Node, m = n.opposite (replacement other?)
      ↔ ∀ p, (m.at? p).map hollow
        = (n.at? p).map fun part =>
          (if n.isItemPosition p then part.reworded (replacement other?) else part).hollow)
    ∧ (∀ (n : Node) (p : List Nat), (n.opposite (replacement other?)).at? p
      = (n.at? p).map fun m =>
        if n.isItemPosition p then m.opposite (replacement other?) else m)
    ∧ ∀ loc nodes, ∃ items, (list loc nodes).items = .ok items
      ∧ ((list loc nodes).opposite (replacement other?)).items
        = .ok (items.map (opposite (replacement other?)))
  := by
  refine ⟨eq_opposite_iff _, at?_opposite _, ?_⟩
  intro loc nodes
  refine ⟨evens nodes, rfl, ?_⟩
  rw [opposite, items, evens_oppositeItems]

/-! ### Swapping twice -/

mutual

theorem opposite_opposite (swap swap' : String → String) :
    ∀ n : Node, (n.opposite swap).opposite swap' = n.opposite fun word => swap' (swap word)
  | .quantity .. => rfl
  | .text _ .identifier _ => rfl
  | .text _ .string _ => rfl
  | .text _ .separator _ => rfl
  | .boolean .. => rfl
  | .null _ => rfl
  | .list loc items => by
      rw [opposite, opposite, opposite, oppositeItems_oppositeItems swap swap' items]
  | .argumentList .. => rfl
  | .range .. => rfl
  | .attributeSelector .. => rfl

theorem oppositeItems_oppositeItems (swap swap' : String → String) :
    ∀ nodes : List Node,
      oppositeItems swap' (oppositeItems swap nodes)
        = oppositeItems (fun word => swap' (swap word)) nodes
  | [] => rfl
  | item :: rest => by
      rw [oppositeItems, oppositeItems, oppositeItems, opposite_opposite swap swap' item,
        keepSeparator_keepSeparator swap swap' rest]

theorem keepSeparator_keepSeparator (swap swap' : String → String) :
    ∀ nodes : List Node,
      keepSeparator swap' (keepSeparator swap nodes)
        = keepSeparator (fun word => swap' (swap word)) nodes
  | [] => rfl
  | separator :: rest => by
      rw [keepSeparator, keepSeparator, keepSeparator, oppositeItems_oppositeItems swap swap' rest]

end

theorem reworded_of_fixed {swap : String → String} (h : ∀ word, swap word = word) (n : Node) :
  n.reworded swap = n
  := by
  cases n with
  | text _ role _ => cases role <;> simp only [reworded, h]
  | _ => rfl

/-- A map that changes no word changes no node. -/
theorem opposite_of_fixed {swap : String → String} (h : ∀ word, swap word = word) (n : Node) :
  n.opposite swap = n
  := by
  symm
  apply (eq_opposite_iff swap n n).mpr
  intro p
  simp only [reworded_of_fixed h, ite_self]

/-- Swapping twice restores all nodes exactly when it restores all words. -/
theorem opposite_opposite_eq_self_iff (swap : String → String) :
  (∀ n : Node, (n.opposite swap).opposite swap = n) ↔ ∀ word, swap (swap word) = word
  := by
  constructor
  · intro restores word
    exact (text.inj (restores (.text none .identifier word))).2.2
  · intro restores n
    rw [opposite_opposite]
    apply opposite_of_fixed restores

/-- Swapping words along one map and then along another is swapping them along both maps at once,
which is swapping along a map again.  So swapping twice along the same map restores all nodes
exactly when the map restores all words, as the opposite directions do. -/
theorem opposite_composes :
  (∀ (other? next? : String → Option String) (n : Node),
      (n.opposite (replacement other?)).opposite (replacement next?)
        = n.opposite fun word => replacement next? (replacement other? word))
    ∧ (∀ (first second : Opposites) (n : Node),
      (n.opposite first.apply).opposite second.apply = n.opposite (first.andThen second).apply)
    ∧ (∀ other? : String → Option String,
      (∀ n : Node, (n.opposite (replacement other?)).opposite (replacement other?) = n)
        ↔ ∀ word, replacement other? (replacement other? word) = word)
    ∧ ∀ n : Node, (n.opposite Config.default.opposites.apply).opposite
        Config.default.opposites.apply = n
  := by
  refine ⟨?_, ?_, ?_, ?_⟩
  · intro other? next? n
    apply opposite_opposite
  · intro first second n
    rw [opposite_opposite]
    congr 1
    funext word
    rw [Opposites.apply_andThen]
  · intro other?
    apply opposite_opposite_eq_self_iff
  · apply (opposite_opposite_eq_self_iff _).mpr
    apply Opposites.apply_apply_directions

end Node

end StyleValue
