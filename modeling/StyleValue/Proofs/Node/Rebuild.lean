import StyleValue.Node.Rebuild
import StyleValue.Proofs.Node.Children

/-!
# Rebuilt values

What a value is rebuilt from, case by case, and that the rebuilt value is the value itself
(`Value.rebuild_restores`).
-/

namespace StyleValue

namespace Value

/-! ### Equations -/

theorem mapM_attach {α β ε : Type} (items : List α) (build : α → Except ε β) :
  (items.attach.mapM fun ⟨a, _⟩ => build a) = items.mapM build
  := by
  change items.attach.mapM (build ∘ Subtype.val) = _
  rw [← List.mapM_map, List.attach_map_subtype_val]

theorem rebuild_sequence (deep : Bool) (form : SequenceForm) (items : List Value) :
  (sequence form items).rebuild deep = (items.mapM (rebuild deep)).map (sequence form)
  := by
  rw [rebuild, mapM_attach]
  cases items.mapM (rebuild deep) <;> rfl

theorem rebuild_childless (deep : Bool) {n : Node} (h : n.children? = none) :
  (node n).rebuild deep = .ok (node n)
  := by
  rw [rebuild]
  split
  · rfl
  · rename_i taken
    cases h.symm.trans taken

/-- A node is given its children, which are rebuilt before if the rebuild is deep. -/
theorem rebuild_node (deep : Bool) {n : Node} {children : List Value}
    (h : n.children? = some children) :
  (node n).rebuild deep
    = ((if deep then children.mapM (rebuild deep) else .ok children) >>= n.withChildren).map node
  := by
  rw [rebuild]
  split
  · rename_i childless
    cases h.symm.trans childless
  · rename_i taken
    obtain rfl := Option.some.inj (h.symm.trans taken)
    rw [mapM_attach]
    cases if deep then children.mapM (rebuild deep) else .ok children with
    | error e => rfl
    | ok rebuilt =>
        change (n.withChildren rebuilt >>= fun m => .ok (node m))
          = (n.withChildren rebuilt).map node
        cases n.withChildren rebuilt <;> rfl

/-! ### The value itself -/

/-- Items that are all rebuilt as they were make the same list. -/
theorem mapM_eq_ok {ε : Type} {items : List Value} {build : Value → Except ε Value}
    (h : ∀ v ∈ items, build v = .ok v) :
  items.mapM build = .ok items
  := by
  induction items with
  | nil => rfl
  | cons v rest ih =>
      rw [List.mapM_cons, h v List.mem_cons_self, ih fun w inRest => h w (.tail v inRest)]
      rfl

/-- Rebuilding a value never fails and gives the value again: the classes of nodes and the sorts of
sequences, what they carry and the locations are the same at every depth. -/
theorem rebuild_restores (deep : Bool) (v : Value) :
  v.rebuild deep = .ok v
  := by
  fun_induction rebuild deep v with
  | case1 p => rfl
  | case2 => rfl
  | case3 form items ih =>
      rw [mapM_attach, mapM_eq_ok ih]
      rfl
  | case4 n childless => rfl
  | case5 n children taken ih =>
      rw [mapM_attach, mapM_eq_ok ih, ite_self]
      simp only [bind, Except.bind, Node.withChildren_of_children? taken]
      rfl

end Value

end StyleValue
