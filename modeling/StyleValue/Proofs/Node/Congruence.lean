import StyleValue.Proofs.Node.Conversion
import StyleValue.Proofs.Node.Equality
import StyleValue.Proofs.Number.ShortText

/-!
# Equal nodes are interchangeable

The equality of the language does not tell the forms of a number apart, nor ranges with different
bounds.  Neither do the conversions, the opposite and the items of a node: they have equal results
on equal nodes (`Node.interchangeable_of_equal`).  Only the items of a range depend on what the
equality does not see.
-/

namespace StyleValue

namespace Node

/-! ### Truth, number and text -/

/-- The truth of a node depends on what the equality sees of it. -/
theorem truth_canonical {n : Node} (h : n.IsWellFormed) :
  n.canonical.truth = n.truth
  := by
  cases n with
  | quantity _ _ amount =>
      rw [canonical, truth, truth, Number.isZero_canonical, Number.isNaN_canonical]
  | text _ role _ => cases role <;> rfl
  | boolean _ flag =>
      obtain ⟨b, rfl⟩ := h.exists_truth
      rfl
  | _ => rfl

theorem quantityText_canonical (measure : Measure) (amount : Number) :
  quantityText measure amount.canonical = quantityText measure amount
  := by
  rw [quantityText, quantityText, Number.shortText_canonical]

/-- So does its text. -/
theorem toText?_canonical {config : Config} (fine : 0 ≤ config.precision) (n : Node) :
  n.canonical.toText? config = n.toText? config
  := by
  cases n with
  | quantity _ measure amount =>
      cases measure with
      | plain => rw [canonical, toText?, toText?, Number.fixedText?_canonical fine]
      | percent => exact congrArg (Except.ok ∘ some) (quantityText_canonical .percent amount)
      | unit u => exact congrArg (Except.ok ∘ some) (quantityText_canonical (.unit u) amount)
  | text _ role _ => cases role <;> rfl
  | _ => rfl

/-- Equal nodes have equal numbers or none. -/
theorem toNumber?_of_equal {a b : Node} (h : a.equal b) :
  (a.toNumber? = none ∧ b.toNumber? = none)
    ∨ ∃ x y, a.toNumber? = some x ∧ b.toNumber? = some y ∧ x.equals y
  := by
  cases a with
  | quantity _ _ amount =>
      cases b with
      | quantity _ _ amount' =>
          right
          exact ⟨amount, amount', rfl, rfl, (Bool.and_eq_true_iff.mp h).2⟩
      | _ => cases h
  | _ =>
      cases b with
      | quantity => cases h
      | _ => exact Or.inl ⟨rfl, rfl⟩

theorem not_isTooCoarse {config : Config} (fine : 0 ≤ config.precision) (n : Node) :
  ¬ n.IsTooCoarse config
  := by
  have finer : ¬ config.precision ≤ -400 := by omega
  rcases n with ⟨_, _ | _ | _, _⟩ | _ | _ | _ | _ | _ | _ | _
  case quantity.plain => exact fun coarse => finer coarse.1
  all_goals exact id

/-! ### Equal items -/

theorem equalAll_nil_iff {bs : List Node} :
  equalAll [] bs ↔ bs = []
  := by
  cases bs <;> simp [equalAll]

theorem equalAll_cons_iff {a : Node} {as bs : List Node} :
  equalAll (a :: as) bs ↔ ∃ b bs', bs = b :: bs' ∧ a.equal b ∧ equalAll as bs'
  := by
  cases bs <;> simp [equalAll]

/-! ### Opposites -/

mutual

theorem equal_opposite (swap : String → String) :
    ∀ a b : Node, a.equal b → (a.opposite swap).equal (b.opposite swap)
  | .quantity .., b, h => by
      cases b with
      | quantity => exact h
      | _ => cases h
  | .text _ role content, b, h => by
      cases b with
      | text _ role' content' =>
          obtain ⟨sameRole, sameContent⟩ := Bool.and_eq_true_iff.mp h
          obtain rfl := of_decide_eq_true sameRole
          obtain rfl := of_decide_eq_true sameContent
          cases role <;> simp [opposite, equal]
      | _ => cases h
  | .boolean .., b, h => by
      cases b with
      | boolean => exact h
      | _ => cases h
  | .null _, b, h => by
      cases b with
      | null => rfl
      | _ => cases h
  | .list _ items, b, h => by
      cases b with
      | list _ items' => exact equalAll_oppositeItems swap items items' h
      | _ => cases h
  | .argumentList .., b, h => by
      cases b with
      | argumentList => exact h
      | _ => cases h
  | .range .., b, h => by
      cases b with
      | range => exact h
      | _ => cases h
  | .attributeSelector .., b, h => by
      cases b with
      | attributeSelector => exact h
      | _ => cases h

theorem equalAll_oppositeItems (swap : String → String) :
    ∀ as bs : List Node, equalAll as bs → equalAll (oppositeItems swap as) (oppositeItems swap bs)
  | [], _, h => by
      obtain rfl := equalAll_nil_iff.mp h
      rfl
  | a :: as, _, h => by
      obtain ⟨b, bs, rfl, first, rest⟩ := equalAll_cons_iff.mp h
      apply equalAll_cons_iff.mpr
      exact ⟨_, _, rfl, equal_opposite swap a b first, equalAll_keepSeparator swap as bs rest⟩

theorem equalAll_keepSeparator (swap : String → String) :
    ∀ as bs : List Node, equalAll as bs → equalAll (keepSeparator swap as) (keepSeparator swap bs)
  | [], _, h => by
      obtain rfl := equalAll_nil_iff.mp h
      rfl
  | a :: as, _, h => by
      obtain ⟨b, bs, rfl, first, rest⟩ := equalAll_cons_iff.mp h
      apply equalAll_cons_iff.mpr
      exact ⟨_, _, rfl, first, equalAll_oppositeItems swap as bs rest⟩

end

/-! ### Items -/

theorem equalAll_evens :
    ∀ as bs : List Node, equalAll as bs → equalAll (evens as) (evens bs)
  | [], _, h => by
      obtain rfl := equalAll_nil_iff.mp h
      rfl
  | [a], _, h => by
      obtain ⟨b, _, rfl, -, rest⟩ := equalAll_cons_iff.mp h
      obtain rfl := equalAll_nil_iff.mp rest
      exact h
  | a :: _ :: as, _, h => by
      obtain ⟨b, _, rfl, first, rest⟩ := equalAll_cons_iff.mp h
      obtain ⟨_, bs, rfl, -, rest⟩ := equalAll_cons_iff.mp rest
      apply equalAll_cons_iff.mpr
      exact ⟨_, _, rfl, first, equalAll_evens as bs rest⟩

theorem equalAll_intersperse {s t : Node} (h : s.equal t) :
    ∀ as bs : List Node, equalAll as bs → equalAll (as.intersperse s) (bs.intersperse t)
  | [], _, same => by
      obtain rfl := equalAll_nil_iff.mp same
      rfl
  | [a], _, same => by
      obtain ⟨b, _, rfl, -, rest⟩ := equalAll_cons_iff.mp same
      obtain rfl := equalAll_nil_iff.mp rest
      exact same
  | a :: a' :: as, _, same => by
      obtain ⟨b, _, rfl, first, rest⟩ := equalAll_cons_iff.mp same
      obtain ⟨b', bs, rfl, -⟩ := equalAll_cons_iff.mp rest
      rw [List.intersperse_cons_cons, List.intersperse_cons_cons, equalAll, equalAll,
        Bool.and_eq_true, Bool.and_eq_true]
      exact ⟨first, h, equalAll_intersperse h (a' :: as) (b' :: bs) rest⟩

/-- Lists of equal items are equal, wherever they stand. -/
theorem equal_separated
    (loc loc' : Option Location) (separator : String) {as bs : List Node} (h : equalAll as bs) :
  (separated loc separator as).equal (separated loc' separator bs)
  := by
  apply equalAll_intersperse _ as bs h
  simp [equal]

/-- A node that is neither a list nor a range is its own item. -/
theorem items_of_kind {n : Node} (list : n.kind ≠ .list) (range : n.kind ≠ .range) :
  n.items = .ok [n]
  := by
  cases n with
  | list => exact absurd rfl list
  | range => exact absurd rfl range
  | _ => rfl

theorem items_of_equal {a b : Node} (h : a.equal b) (range : a.kind ≠ .range) :
  ∃ as bs, a.items = .ok as ∧ b.items = .ok bs ∧ equalAll as bs
  := by
  have kind := kind_eq_of_equal h
  by_cases list : a.kind = .list
  · cases a with
    | list _ items =>
        cases b with
        | list _ items' => exact ⟨_, _, rfl, rfl, equalAll_evens items items' h⟩
        | _ => cases h
    | text _ role _ => cases role <;> cases list
    | quantity _ measure _ => cases measure <;> cases list
    | _ => cases list
  · refine ⟨_, _, items_of_kind list range, items_of_kind ?_ ?_, ?_⟩
    · rw [← kind]
      exact list
    · rw [← kind]
      exact range
    · rw [equalAll, h]
      rfl

end Node

/-- The node as a value, if there is one. -/
def Value.ofNode? : Option Node → Value
  | none => .absent
  | some n => .node n

namespace Node

theorem toList?_of_equal {a b : Node} (h : a.equal b) (range : a.kind ≠ .range) (config : Config)
    (separator : Option String) :
  ∃ v w, a.toList? config separator = .ok v ∧ b.toList? config separator = .ok w
    ∧ (Value.ofNode? v).equal (Value.ofNode? w)
  := by
  cases a with
  | list _ items =>
      cases b with
      | list _ items' => exact ⟨_, _, rfl, rfl, h⟩
      | _ => cases h
  | argumentList _ items =>
      cases b with
      | argumentList _ items' => exact ⟨_, _, rfl, rfl, equal_separated _ _ _ h⟩
      | _ => cases h
  | range => exact absurd rfl range
  | _ =>
      cases b with
      | list => cases h
      | argumentList => cases h
      | range => cases h
      | _ => exact ⟨_, _, rfl, rfl, rfl⟩

/-! ### All operations together -/

/-- Operations have equal results on the two nodes. -/
structure Interchangeable (a b : Node) : Prop where
  truth : a.truth = b.truth
  /-- Their numbers are equal, or neither has one. -/
  number : (a.toNumber? = none ∧ b.toNumber? = none)
    ∨ ∃ x y, a.toNumber? = some x ∧ b.toNumber? = some y ∧ x.equals y
  /-- Their texts are the same, or neither has one. -/
  text (config : Config) (fine : 0 ≤ config.precision) :
    ∃ text?, a.toText? config = .ok text? ∧ b.toText? config = .ok text?
  opposite (opposites : Opposites) :
    (a.opposite opposites.apply).equal (b.opposite opposites.apply)
  items (range : a.kind ≠ .range) :
    ∃ as bs, a.items = .ok as ∧ b.items = .ok bs
      ∧ (Value.sequence .list (as.map .node)).equal (.sequence .list (bs.map .node))
  /-- The lists made of them are equal, or none is made of either. -/
  list (range : a.kind ≠ .range) (config : Config) (separator : Option String) :
    ∃ v w, a.toList? config separator = .ok v ∧ b.toList? config separator = .ok w
      ∧ (Value.ofNode? v).equal (Value.ofNode? w)

/-- Equal nodes are interchangeable. -/
theorem interchangeable_of_equal
    {a b : Node} (ha : a.IsWellFormed) (hb : b.IsWellFormed) (h : a.equal b) :
  Interchangeable a b
  where
  truth := by
    obtain ⟨-, same⟩ := (equal_iff a b).mp h
    rw [← truth_canonical ha, same, truth_canonical hb]
  number := toNumber?_of_equal h
  text config fine := by
    obtain ⟨-, same⟩ := (equal_iff a b).mp h
    obtain ⟨text?, written⟩ := (toText?_isOk_iff config a).mpr (not_isTooCoarse fine a)
    use text?, written
    rw [← toText?_canonical fine, ← same, toText?_canonical fine, written]
  opposite opposites := equal_opposite opposites.apply a b h
  items range := by
    obtain ⟨as, bs, ha, hb, same⟩ := items_of_equal h range
    use as, bs, ha, hb
    rw [Value.equal, Value.equalAll_map_node]
    exact same
  list range := toList?_of_equal h range

/-- Lists of a whole number in two forms, a word with an opposite and ranges with different
bounds. -/
theorem interchangeable_lists :
  Interchangeable
    (.list none [.quantity none .plain (.int 2), .text none .separator " ",
      .text none .identifier "left", .text none .separator " ",
      .range none (.null none) (.text none .string "a") true])
    (.list none [.quantity none .plain (.float (.ofBits 0x4000000000000000)),
      .text none .separator " ", .text none .identifier "left", .text none .separator " ",
      .range none (.boolean none (.truth true)) (.null none) true])
  := interchangeable_of_equal (by decide) (by decide) (by decide +kernel)

end Node

end StyleValue
