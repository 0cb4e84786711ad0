import StyleValue.Node.Equality
import StyleValue.Proofs.Number.Equality

/-!
# The equality of the language

The equality of the language is sameness of a *canonical* form: without locations, without what is
inside ranges and attribute selectors, with one sort of sequence and one form of each number
(`Value.equal_iff`).  Not-a-number is the exception, and equals nothing.  So the equality is
symmetric and transitive, and a value equals itself unless not-a-number is *exposed* in it, outside
of ranges and attribute selectors (`Value.equal_laws`).  Apart from these two kinds it compares what
`Node.children?` shows of a node (`Node.equal_eq_equalAll_children`).
-/

namespace StyleValue

namespace Payload

/-- The payload with its number in canonical form. -/
def canonical : Payload → Payload
  | .number x => .number x.canonical
  | p => p

def isNaN : Payload → Bool
  | .number x => x.isNaN
  | _ => false

theorem isNaN_canonical (p : Payload) :
  p.canonical.isNaN = p.isNaN
  := by
  cases p with
  | number x => apply Number.isNaN_canonical
  | text s => rfl
  | truth b => rfl

theorem equal_iff {p q : Payload} :
  p.equal q ↔ ¬ p.isNaN ∧ p.canonical = q.canonical
  := by
  cases p with
  | number a =>
      cases q with
      | number b =>
          rw [equal, Number.equals_iff, canonical, canonical, Payload.number.injEq]
          exact Iff.rfl
      | _ => simp [equal, canonical]
  | text s => cases q <;> simp [equal, canonical, isNaN]
  | truth b => cases q <;> simp [equal, canonical, isNaN]

end Payload

/-- The flag with its number in canonical form. -/
def Flag.canonical : Flag → Flag
  | truth b => truth b
  | number x => number x.canonical

theorem Flag.equal_payload_iff {f g : Flag} :
  f.payload.equal g.payload ↔ ¬ f.payload.isNaN ∧ f.canonical = g.canonical
  := by
  rw [Payload.equal_iff]
  cases f <;> cases g <;> simp [payload, Payload.canonical, canonical]

namespace Node

mutual

/-- What the equality of the language sees of a node. -/
def canonical : Node → Node
  | .quantity _ measure amount => .quantity none measure amount.canonical
  | .text _ role content => .text none role content
  | .boolean _ flag => .boolean none flag.canonical
  | .null _ => .null none
  | .list _ items => .list none (canonicalAll items)
  | .argumentList _ items => .argumentList none (canonicalAll items)
  | .range _ _ _ exclusive => .range none (.null none) (.null none) exclusive
  | .attributeSelector _ _ _ operator => .attributeSelector none (.null none) none operator

/-- What the equality of the language sees of several nodes. -/
def canonicalAll : List Node → List Node
  | [] => []
  | n :: rest => n.canonical :: canonicalAll rest

end

mutual

/-- The payloads in a node, outside of the bounds of ranges and the parts of attribute selectors. -/
def exposed : Node → List Payload
  | .list _ items => exposedAll items
  | .argumentList _ items => exposedAll items
  | n => n.payload?.toList

/-- The exposed payloads in several nodes. -/
def exposedAll : List Node → List Payload
  | [] => []
  | n :: rest => n.exposed ++ exposedAll rest

end

mutual

theorem exposed_canonical :
    ∀ n : Node, n.canonical.exposed = n.exposed.map Payload.canonical
  | .quantity .. => rfl
  | .text .. => rfl
  | .boolean _ flag => by cases flag <;> rfl
  | .null _ => rfl
  | .list _ items => by
      rw [canonical, exposed, exposedAll_canonicalAll items, exposed]
  | .argumentList _ items => by
      rw [canonical, exposed, exposedAll_canonicalAll items, exposed]
  | .range .. => rfl
  | .attributeSelector .. => rfl

theorem exposedAll_canonicalAll :
    ∀ nodes : List Node,
      exposedAll (canonicalAll nodes) = (exposedAll nodes).map Payload.canonical
  | [] => rfl
  | n :: rest => by
      rw [canonicalAll, exposedAll, exposed_canonical n, exposedAll_canonicalAll rest, exposedAll,
        List.map_append]

end

mutual

theorem equal_iff :
    ∀ a b : Node, a.equal b ↔ (∀ p ∈ a.exposed, ¬ p.isNaN) ∧ a.canonical = b.canonical
  | .quantity _ measure amount, b => by
      cases b with
      | quantity _ measure' amount' =>
          rw [equal, Bool.and_eq_true, decide_eq_true_eq, Number.equals_iff]
          simp [exposed, payload?, canonical, Payload.isNaN, and_left_comm]
      | _ => simp [equal, canonical]
  | .text _ role content, b => by
      cases b <;> simp [equal, canonical, exposed, payload?, Payload.isNaN]
  | .boolean _ flag, b => by
      cases b with
      | boolean _ flag' =>
          rw [equal, Flag.equal_payload_iff]
          simp [exposed, payload?, canonical]
      | _ => simp [equal, canonical]
  | .null _, b => by
      cases b <;> simp [equal, canonical, exposed, payload?]
  | .list _ items, b => by
      cases b with
      | list _ items' =>
          rw [equal, equalAll_iff items items', canonical, canonical]
          simp [exposed]
      | _ => simp [equal, canonical]
  | .argumentList _ items, b => by
      cases b with
      | argumentList _ items' =>
          rw [equal, equalAll_iff items items', canonical, canonical]
          simp [exposed]
      | _ => simp [equal, canonical]
  | .range .., b => by
      cases b <;> simp [equal, canonical, exposed, payload?]
  | .attributeSelector .., b => by
      cases b <;> simp [equal, canonical, exposed, payload?]

theorem equalAll_iff :
    ∀ as bs : List Node,
      equalAll as bs ↔ (∀ p ∈ exposedAll as, ¬ p.isNaN) ∧ canonicalAll as = canonicalAll bs
  | [], [] => by simp [equalAll, exposedAll, canonicalAll]
  | [], _ :: _ => by simp [equalAll, canonicalAll]
  | _ :: _, [] => by simp [equalAll, canonicalAll]
  | a :: as, b :: bs => by
      rw [equalAll, Bool.and_eq_true, equal_iff a b, equalAll_iff as bs, exposedAll,
        List.forall_mem_append, canonicalAll, canonicalAll, List.cons.injEq]
      tauto

end

end Node

namespace Value

mutual

/-- What the equality of the language sees of a value. -/
def canonical : Value → Value
  | .payload p => .payload p.canonical
  | .absent => .absent
  | .node n => .node n.canonical
  | .sequence _ items => .sequence .list (canonicalAll items)

/-- What the equality of the language sees of several values. -/
def canonicalAll : List Value → List Value
  | [] => []
  | v :: rest => v.canonical :: canonicalAll rest

end

mutual

/-- The payloads in a value, outside of the bounds of ranges and the parts of attribute
selectors. -/
def exposed : Value → List Payload
  | .payload p => [p]
  | .absent => []
  | .node n => n.exposed
  | .sequence _ items => exposedAll items

/-- The exposed payloads in several values. -/
def exposedAll : List Value → List Payload
  | [] => []
  | v :: rest => v.exposed ++ exposedAll rest

end

mutual

theorem exposed_canonical :
    ∀ v : Value, v.canonical.exposed = v.exposed.map Payload.canonical
  | .payload _ => rfl
  | .absent => rfl
  | .node n => n.exposed_canonical
  | .sequence _ items => by
      rw [canonical, exposed, exposedAll_canonicalAll items, exposed]

theorem exposedAll_canonicalAll :
    ∀ values : List Value,
      exposedAll (canonicalAll values) = (exposedAll values).map Payload.canonical
  | [] => rfl
  | v :: rest => by
      rw [canonicalAll, exposedAll, exposed_canonical v, exposedAll_canonicalAll rest, exposedAll,
        List.map_append]

end

mutual

/-- Values are equal when they have the same canonical form, unless not-a-number is exposed. -/
theorem equal_iff :
    ∀ v w : Value, v.equal w ↔ (∀ p ∈ v.exposed, ¬ p.isNaN) ∧ v.canonical = w.canonical
  | .payload p, w => by
      cases w with
      | payload q =>
          rw [equal, Payload.equal_iff]
          simp [exposed, canonical]
      | _ => simp [equal, canonical]
  | .absent, w => by
      cases w <;> simp [equal, canonical, exposed]
  | .node a, w => by
      cases w with
      | node b =>
          rw [equal, Node.equal_iff, canonical, canonical, Value.node.injEq, exposed]
      | _ => simp [equal, canonical]
  | .sequence _ items, w => by
      cases w with
      | sequence _ items' =>
          rw [equal, equalAll_iff items items', exposed]
          simp [canonical]
      | _ => simp [equal, canonical]

theorem equalAll_iff :
    ∀ vs ws : List Value,
      equalAll vs ws ↔ (∀ p ∈ exposedAll vs, ¬ p.isNaN) ∧ canonicalAll vs = canonicalAll ws
  | [], [] => by simp [equalAll, exposedAll, canonicalAll]
  | [], _ :: _ => by simp [equalAll, canonicalAll]
  | _ :: _, [] => by simp [equalAll, canonicalAll]
  | v :: vs, w :: ws => by
      rw [equalAll, Bool.and_eq_true, equal_iff v w, equalAll_iff vs ws, exposedAll,
        List.forall_mem_append, canonicalAll, canonicalAll, List.cons.injEq]
      tauto

end

theorem forall_exposed_canonical_iff (v : Value) :
  (∀ p ∈ v.canonical.exposed, ¬ p.isNaN) ↔ ∀ p ∈ v.exposed, ¬ p.isNaN
  := by
  simp only [exposed_canonical, List.forall_mem_map, Payload.isNaN_canonical]

theorem equal_comm (v w : Value) :
  v.equal w = w.equal v
  := by
  rw [Bool.eq_iff_iff, equal_iff, equal_iff, ← forall_exposed_canonical_iff v,
    ← forall_exposed_canonical_iff w]
  constructor
  · rintro ⟨free, same⟩
    rw [← same]
    exact ⟨free, rfl⟩
  · rintro ⟨free, same⟩
    rw [← same]
    exact ⟨free, rfl⟩

theorem equal_trans {u v w : Value} (h : u.equal v) (h' : v.equal w) :
  u.equal w
  := by
  rw [equal_iff] at h h' ⊢
  obtain ⟨free, same⟩ := h
  obtain ⟨-, same'⟩ := h'
  exact ⟨free, same.trans same'⟩

theorem equal_self_iff {v : Value} :
  v.equal v ↔ ∀ p ∈ v.exposed, ¬ p.isNaN
  := by
  rw [equal_iff]
  exact and_iff_left rfl

/-- The equality of the language is symmetric and transitive, and reflexive where not-a-number is
not exposed. -/
theorem equal_laws :
  (∀ v w : Value, v.equal w = w.equal v)
    ∧ (∀ u v w : Value, u.equal v → v.equal w → u.equal w)
    ∧ ∀ v : Value, v.equal v ↔ ∀ p ∈ v.exposed, ¬ p.isNaN
  := by
  refine ⟨equal_comm, ?_, ?_⟩
  · intro u v w
    apply equal_trans
  · intro v
    apply equal_self_iff

/-- A list, a tuple and a list again, of ranges with different bounds. -/
theorem equal_sequences_of_ranges :
  equal (.sequence .list [.node (.range none (.null none) (.text none .string "a") true)])
      (.sequence .tuple [.node (.range none (.text none .identifier "b") (.null none) true)])
    ∧ equal (.sequence .tuple [.node (.range none (.text none .identifier "b") (.null none) true)])
      (.sequence .list [.node (.range (some ⟨1, 0, none⟩) (.null none) (.null none) true)])
    ∧ equal (.sequence .list [.node (.range none (.null none) (.text none .string "a") true)])
      (.sequence .list [.node (.range (some ⟨1, 0, none⟩) (.null none) (.null none) true)])
  := by
  refine ⟨by decide, by decide, ?_⟩
  apply equal_laws.2.1 _
    (.sequence .tuple [.node (.range none (.text none .identifier "b") (.null none) true)])
  · decide
  · decide

end Value

/-! ### Children -/

namespace Value

theorem equal_ofUnitPart (p q : UnitPart) :
  (ofUnitPart p).equal (ofUnitPart q) = decide (p = q)
  := by
  cases p <;> cases q <;>
    simp [ofUnitPart, ofNumber, ofText, equal, Payload.equal, Number.equals_int]

theorem equalAll_map_ofUnitPart (ps qs : List UnitPart) :
  equalAll (ps.map ofUnitPart) (qs.map ofUnitPart) = decide (ps = qs)
  := by
  induction ps generalizing qs with
  | nil => cases qs <;> rfl
  | cons p ps ih =>
      cases qs with
      | nil => rfl
      | cons q qs =>
          rw [List.map_cons, List.map_cons, equalAll, equal_ofUnitPart, ih, ← Bool.decide_and]
          simp only [List.cons.injEq]

theorem equal_ofUnit (u v : UnitOfMeasure) :
  (ofUnit u).equal (ofUnit v) = decide (u = v)
  := by
  cases u <;> cases v <;>
    simp [ofUnit, ofText, equal, Payload.equal, equalAll_map_ofUnitPart]

theorem equalAll_map_node (as bs : List Node) :
  equalAll (as.map node) (bs.map node) = Node.equalAll as bs
  := by
  induction as generalizing bs with
  | nil => cases bs <;> rfl
  | cons a as ih =>
      cases bs with
      | nil => rfl
      | cons b bs => rw [List.map_cons, List.map_cons, equalAll, equal, ih, Node.equalAll]

end Value

namespace Node

theorem kind_canonical (n : Node) :
  n.canonical.kind = n.kind
  := by
  cases n <;> rfl

theorem kind_eq_of_equal {a b : Node} (h : a.equal b) :
  a.kind = b.kind
  := by
  obtain ⟨-, same⟩ := (equal_iff a b).mp h
  rw [← kind_canonical a, same, kind_canonical]

/-- Of nodes of one kind the equality of the language compares the children, except for ranges and
attribute selectors. -/
theorem equal_eq_equalAll_children {a b : Node} {as bs : List Value} (same : a.kind = b.kind)
    (range : a.kind ≠ .range) (selector : a.kind ≠ .attributeSelector)
    (ha : a.children? = some as) (hb : b.children? = some bs) :
  a.equal b = Value.equalAll as bs
  := by
  rcases a with ⟨_, _ | _ | u, x⟩ | ⟨_, _ | _ | _, s⟩ | ⟨_, f⟩ | _ | _ | _ | _ | _
  case range => exact absurd rfl range
  case attributeSelector => exact absurd rfl selector
  case null => cases ha
  all_goals
    rcases b with ⟨_, _ | _ | v, y⟩ | ⟨_, _ | _ | _, t⟩ | ⟨_, g⟩ | _ | _ | _ | _ | _ <;> cases same
    cases ha
    cases hb
    simp [equal, Value.equalAll, Value.equal, Value.ofNumber, Value.ofText, Payload.equal,
      Value.equal_ofUnit, Value.equalAll_map_node, Bool.and_comm]

end Node

end StyleValue
