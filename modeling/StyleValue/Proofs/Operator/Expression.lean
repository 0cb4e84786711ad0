import StyleValue.Operator.Perform

/-!
# Expressions

An `Expression` is a tree of binary operations over leaves of some sort.  It is evaluated from the
leaves up: the operands first, the left one before the right one, and then the operation on their
values.  The first failure ends the evaluation.

Among the leaves the *leader* for a property is the leftmost one that has the property, or the
leftmost of all if there is none.  `Expression.leader_operation` says how the leader of an operation
is chosen between those of its operands.
-/

namespace StyleValue

/-- A tree of operations over leaves. -/
inductive Expression (ω α : Type) where
  | leaf (a : α)
  | operation (operator : ω) (left right : Expression ω α)

namespace Expression

variable {ω α : Type}

/-- The value of an expression, where a leaf stands for a node and an operator has a symbol. -/
def eval (symbol : ω → String) (node : α → Node) : Expression ω α → Except Failure Node
  | leaf a => .ok (node a)
  | operation operator left right => do
      perform (symbol operator) (← left.eval symbol node) (← right.eval symbol node)

/-- An operation has a value when its operands have values on which it can be performed. -/
theorem eval_operation_eq_ok_iff
    {symbol : ω → String} {node : α → Node} {operator : ω} {left right : Expression ω α}
    {n : Node} :
  (operation operator left right).eval symbol node = .ok n
    ↔ ∃ l r, left.eval symbol node = .ok l ∧ right.eval symbol node = .ok r
      ∧ perform (symbol operator) l r = .ok n
  := by
  constructor
  · intro value
    rw [eval] at value
    cases leftValue : left.eval symbol node with
    | error e =>
        rw [leftValue] at value
        cases value
    | ok l =>
        cases rightValue : right.eval symbol node with
        | error e =>
            rw [leftValue, rightValue] at value
            cases value
        | ok r =>
            rw [leftValue, rightValue] at value
            exact ⟨l, r, rfl, rfl, value⟩
  · rintro ⟨l, r, leftValue, rightValue, performed⟩
    rw [eval, leftValue, rightValue]
    exact performed

/-- The leaves from left to right. -/
def leaves : Expression ω α → List α
  | leaf a => [a]
  | operation _ left right => left.leaves ++ right.leaves

/-- The leftmost leaf. -/
def first : Expression ω α → α
  | leaf a => a
  | operation _ left _ => left.first

/-- The expression and those inside it. -/
def subexpressions : Expression ω α → List (Expression ω α)
  | leaf a => [leaf a]
  | operation operator left right =>
      operation operator left right :: (left.subexpressions ++ right.subexpressions)

/-! ### Leaders -/

/-- The leftmost leaf with the property, or else the leftmost leaf. -/
def leader (p : α → Bool) (e : Expression ω α) : α := (e.leaves.find? p).getD e.first

theorem first_mem_leaves (e : Expression ω α) :
  e.first ∈ e.leaves
  := by
  induction e with
  | leaf a => apply List.mem_singleton_self
  | operation _ left right ihl _ => apply List.mem_append_left _ ihl

theorem head?_leaves (e : Expression ω α) :
  e.leaves.head? = some e.first
  := by
  induction e with
  | leaf a => rfl
  | operation _ left right ihl _ => rw [leaves, List.head?_append, ihl, first, Option.some_or]

/-- The leader depends on the sequence of the leaves only. -/
theorem leader_congr (p : α → Bool) {e e' : Expression ω α} (h : e.leaves = e'.leaves) :
  e.leader p = e'.leader p
  := by
  have first : e.first = e'.first := by
    apply Option.some.inj
    rw [← head?_leaves, h, head?_leaves]
  rw [leader, leader, h, first]

theorem leader_mem_leaves (p : α → Bool) (e : Expression ω α) :
  e.leader p ∈ e.leaves
  := by
  rw [leader]
  cases found : e.leaves.find? p with
  | none => apply first_mem_leaves
  | some a => exact List.mem_of_find?_eq_some found

theorem leader_leaf (p : α → Bool) (a : α) :
  (leaf a : Expression ω α).leader p = a
  := by
  apply List.mem_singleton.mp
  apply leader_mem_leaves p (leaf a : Expression ω α)

/-- The leader has the property if any leaf does. -/
theorem leader_iff (p : α → Bool) (e : Expression ω α) :
  p (e.leader p) ↔ ∃ a ∈ e.leaves, p a
  := by
  constructor
  · intro h
    exact ⟨e.leader p, e.leader_mem_leaves p, h⟩
  · rintro ⟨a, mem, h⟩
    rw [leader]
    cases found : e.leaves.find? p with
    | none => exact absurd h (List.find?_eq_none.mp found a mem)
    | some b => apply List.find?_some found

theorem leader_cases (p : α → Bool) (e : Expression ω α) :
  (p (e.leader p) = true ∧ e.leaves.find? p = some (e.leader p))
    ∨ (p (e.leader p) = false ∧ e.leaves.find? p = none ∧ e.leader p = e.first)
  := by
  have has := e.leader_iff p
  cases found : e.leaves.find? p with
  | some a =>
      left
      rw [leader, found]
      exact ⟨List.find?_some found, rfl⟩
  | none =>
      right
      refine ⟨?_, rfl, ?_⟩
      · rw [← Bool.not_eq_true, has]
        rintro ⟨a, mem, h⟩
        apply List.find?_eq_none.mp found a mem h
      · rw [leader, found]
        rfl

/-- The leader of an operation is that of its left operand, unless only the right one has a leaf
with the property. -/
theorem leader_operation (p : α → Bool) (operator : ω) (left right : Expression ω α) :
  (operation operator left right).leader p
    = if p (right.leader p) ∧ ¬ p (left.leader p) then right.leader p else left.leader p
  := by
  have chosen : (operation operator left right).leader p
      = ((left.leaves.find? p).or (right.leaves.find? p)).getD left.first := by
    rw [leader, leaves, List.find?_append]
    rfl
  rw [chosen]
  rcases left.leader_cases p with ⟨has, found⟩ | ⟨hasNot, found, first⟩
  · rw [if_neg (by simp [has]), found]
    rfl
  · rcases right.leader_cases p with ⟨has, found'⟩ | ⟨hasNot', found', -⟩
    · rw [if_pos (by simp [has, hasNot]), found, found']
      rfl
    · rw [if_neg (by simp [hasNot']), found, found', first]
      rfl

end Expression

end StyleValue
