import StyleValue.Node.Equality
import StyleValue.Proofs.Node.Within
import StyleValue.Proofs.Number.Overflow

/-!
# The two equalities compared

Forgetting puts blanks in the places of all that is inside ranges and attribute selectors.  On
well-formed nodes the equality of the language is the equality of the fields after forgetting
(`Node.equal_iff_sameFields`).  So nodes with the same fields are equal, and the two equalities
agree on nodes in which there is nothing to forget.
-/

namespace StyleValue

/-- Truth values count as the same number only when they are the same. -/
theorem Payload.sameFields_truth (b c : Bool) :
  (truth b).sameFields (truth c) = decide (b = c)
  := by
  have positive := Binary64.unitsPerOne_pos
  simp only [sameFields, toNumber?, Number.equals, Number.position?, Position.units.injEq]
  cases b <;> cases c <;> simp <;> omega

namespace Node

/-- What stands in the place of a forgotten node. -/
def blank : Node := .null none

mutual

/-- The node with all that is inside ranges and attribute selectors forgotten. -/
def forget : Node → Node
  | .list loc items => .list loc (forgetAll items)
  | .argumentList loc items => .argumentList loc (forgetAll items)
  | .range loc _ _ exclusive => .range loc blank blank exclusive
  | .attributeSelector loc _ _ operator => .attributeSelector loc blank none operator
  | n => n

/-- The nodes with all that is inside ranges and attribute selectors forgotten. -/
def forgetAll : List Node → List Node
  | [] => []
  | n :: rest => n.forget :: forgetAll rest

end

mutual

/-- The equality of the language compares the fields that are not forgotten. -/
theorem sameFields_forget :
    ∀ a b : Node, a.IsWellFormed → b.IsWellFormed →
      a.forget.sameFields b.forget = a.equal b
  | .quantity .., b, _, _ => by cases b <;> rfl
  | .text .., b, _, _ => by cases b <;> rfl
  | .boolean _ flag, b, ha, hb => by
      cases b with
      | boolean _ flag' =>
          obtain ⟨b, rfl⟩ := ha.exists_truth
          obtain ⟨c, rfl⟩ := hb.exists_truth
          apply Payload.sameFields_truth
      | _ => rfl
  | .null _, b, _, _ => by cases b <;> rfl
  | .list _ items, b, ha, hb => by
      cases b with
      | list _ items' =>
          apply sameFieldsAll_forgetAll items items'
          · exact (List.forall_mem_cons.mp ha).2
          · exact (List.forall_mem_cons.mp hb).2
      | _ => rfl
  | .argumentList _ items, b, ha, hb => by
      cases b with
      | argumentList _ items' =>
          apply sameFieldsAll_forgetAll items items'
          · exact (List.forall_mem_cons.mp ha).2
          · exact (List.forall_mem_cons.mp hb).2
      | _ => rfl
  | .range .., b, _, _ => by cases b <;> rfl
  | .attributeSelector .., b, _, _ => by cases b <;> rfl

theorem sameFieldsAll_forgetAll :
    ∀ as bs : List Node, (∀ m ∈ withinAll as, m.isTruthful) → (∀ m ∈ withinAll bs, m.isTruthful) →
      sameFieldsAll (forgetAll as) (forgetAll bs) = equalAll as bs
  | [], [], _, _ => rfl
  | [], _ :: _, _, _ => rfl
  | _ :: _, [], _, _ => rfl
  | a :: as, b :: bs, ha, hb => by
      obtain ⟨first, rest⟩ := List.forall_mem_append.mp ha
      obtain ⟨first', rest'⟩ := List.forall_mem_append.mp hb
      rw [forgetAll, forgetAll, sameFieldsAll, sameFields_forget a b first first',
        sameFieldsAll_forgetAll as bs rest rest', equalAll]

end

mutual

/-- Fields that are the same stay so when some are forgotten. -/
theorem sameFields_forget_of_sameFields :
    ∀ a b : Node, a.sameFields b → a.forget.sameFields b.forget
  | .quantity .., b, h => by cases b <;> exact h
  | .text .., b, h => by cases b <;> exact h
  | .boolean .., b, h => by cases b <;> exact h
  | .null _, b, h => by cases b <;> exact h
  | .list _ items, b, h => by
      cases b with
      | list _ items' => apply sameFieldsAll_forgetAll_of_sameFieldsAll items items' h
      | _ => cases h
  | .argumentList _ items, b, h => by
      cases b with
      | argumentList _ items' => apply sameFieldsAll_forgetAll_of_sameFieldsAll items items' h
      | _ => cases h
  | .range .., b, h => by
      cases b with
      | range => exact (Bool.and_eq_true_iff.mp h).2
      | _ => cases h
  | .attributeSelector .., b, h => by
      cases b with
      | attributeSelector => exact (Bool.and_eq_true_iff.mp h).2
      | _ => cases h

theorem sameFieldsAll_forgetAll_of_sameFieldsAll :
    ∀ as bs : List Node, sameFieldsAll as bs → sameFieldsAll (forgetAll as) (forgetAll bs)
  | [], [], _ => rfl
  | [], _ :: _, h => by cases h
  | _ :: _, [], h => by cases h
  | a :: as, b :: bs, h => by
      rw [sameFieldsAll, Bool.and_eq_true] at h
      obtain ⟨first, rest⟩ := h
      rw [forgetAll, forgetAll, sameFieldsAll, Bool.and_eq_true]
      exact ⟨sameFields_forget_of_sameFields a b first,
        sameFieldsAll_forgetAll_of_sameFieldsAll as bs rest⟩

end

mutual

theorem forget_eq_self :
    ∀ n : Node, (∀ m ∈ n.within, m.kind ≠ .range ∧ m.kind ≠ .attributeSelector) → n.forget = n
  | .quantity .., _ => rfl
  | .text .., _ => rfl
  | .boolean .., _ => rfl
  | .null _, _ => rfl
  | .list _ items, h => by
      rw [forget, forgetAll_eq_self items (List.forall_mem_cons.mp h).2]
  | .argumentList _ items, h => by
      rw [forget, forgetAll_eq_self items (List.forall_mem_cons.mp h).2]
  | .range .., h => absurd rfl (h _ (mem_within_self _)).1
  | .attributeSelector .., h => absurd rfl (h _ (mem_within_self _)).2

theorem forgetAll_eq_self :
    ∀ nodes : List Node,
      (∀ m ∈ withinAll nodes, m.kind ≠ .range ∧ m.kind ≠ .attributeSelector) →
      forgetAll nodes = nodes
  | [], _ => rfl
  | n :: rest, h => by
      obtain ⟨first, others⟩ := List.forall_mem_append.mp h
      rw [forgetAll, forget_eq_self n first, forgetAll_eq_self rest others]

end

/-- Well-formed nodes are equal in the language when their fields are the same after forgetting.
Therefore nodes with the same fields are equal, and equal nodes without ranges and attribute
selectors have the same fields. -/
theorem equal_iff_sameFields {a b : Node} (ha : a.IsWellFormed) (hb : b.IsWellFormed) :
  (a.equal b ↔ a.forget.sameFields b.forget)
    ∧ (a.sameFields b → a.equal b)
    ∧ ((∀ m ∈ a.within, m.kind ≠ .range ∧ m.kind ≠ .attributeSelector) →
      (∀ m ∈ b.within, m.kind ≠ .range ∧ m.kind ≠ .attributeSelector) →
        (a.equal b ↔ a.sameFields b))
  := by
  have compared := sameFields_forget a b ha hb
  refine ⟨by rw [compared], ?_, ?_⟩
  · intro same
    rw [← compared]
    apply sameFields_forget_of_sameFields a b same
  · intro bare bare'
    rw [← compared, forget_eq_self a bare, forget_eq_self b bare']

/-- Lists of ranges with other bounds. -/
theorem equal_lists_of_ranges :
  (list none [.range none (.null none) (.text none .string "a") true]).IsWellFormed
    ∧ (list none [.range none (.boolean none (.truth true)) (.null none) true]).IsWellFormed
    ∧ (list none [.range none (.null none) (.text none .string "a") true]).equal
      (.list none [.range none (.boolean none (.truth true)) (.null none) true])
  := by
  refine ⟨by decide, by decide, ?_⟩
  apply (equal_iff_sameFields (by decide) (by decide)).1.mpr
  decide

end Node

end StyleValue
