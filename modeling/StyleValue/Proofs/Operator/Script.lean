import Mathlib.Data.List.Induction
import StyleValue.Proofs.Operator.Result

/-!
# Scripts

A script is a sequence of operations on nodes written down and on results of earlier steps.  Running
it records for each step what was computed, with the expression of which it is the value.  A step
sees what the steps before it have made (`getElem?_run`), so that what one operation keeps, a script
keeps in all its steps (`run_computes`).
-/

namespace StyleValue

/-- Where an operand comes from: it is written down, or it is the result of an earlier step. -/
inductive Operand where
  | leaf (n : Node)
  | result (step : Nat)

/-- An operation on two operands. -/
structure Step where
  symbol : String
  left : Operand
  right : Operand

/-- A node that was computed, with the expression that it was computed by. -/
structure Computed where
  node : Node
  origin : Expression String Node

/-- The node is the value of the expression. -/
def Computed.IsValue (c : Computed) : Prop := c.origin.eval id id = .ok c.node

/-- The operand, where `made` lists what the steps so far have computed. -/
def Operand.fetch? (made : List (Option Computed)) : Operand → Option Computed
  | leaf n => some ⟨n, .leaf n⟩
  | result step => made[step]?.join

/-- What a step computes; nothing if it fails, or if an operand has not been computed. -/
def Step.perform? (made : List (Option Computed)) (step : Step) : Option Computed :=
  match step.left.fetch? made, step.right.fetch? made with
  | some left, some right =>
      match perform step.symbol left.node right.node with
      | .ok n => some ⟨n, .operation step.symbol left.origin right.origin⟩
      | .error _ => none
  | _, _ => none

namespace Script

/-- What the steps of a script compute, one after the other. -/
def run (steps : List Step) : List (Option Computed) :=
  steps.foldl (fun made step => made ++ [step.perform? made]) []

/-! ### Single steps -/

theorem perform?_eq_some_iff {made : List (Option Computed)} {step : Step} {c : Computed} :
  step.perform? made = some c
    ↔ ∃ left right, step.left.fetch? made = some left ∧ step.right.fetch? made = some right
      ∧ perform step.symbol left.node right.node = .ok c.node
      ∧ c.origin = .operation step.symbol left.origin right.origin
  := by
  constructor
  · intro computed
    rw [Step.perform?] at computed
    split at computed
    next left right hleft hright =>
      split at computed
      next n performed =>
        cases computed
        exact ⟨left, right, hleft, hright, performed, rfl⟩
      next => cases computed
    next => cases computed
  · rintro ⟨left, right, hleft, hright, performed, origin⟩
    obtain ⟨n, e⟩ := c
    obtain rfl : e = _ := origin
    rw [Step.perform?, hleft, hright]
    simp only [performed]

/-- Operands are values of expressions if all that was made is. -/
theorem isValue_of_fetch? {made : List (Option Computed)} (values : ∀ c, some c ∈ made → c.IsValue)
    {operand : Operand} {c : Computed} (fetched : operand.fetch? made = some c) :
  c.IsValue
  := by
  cases operand with
  | leaf n =>
      cases fetched
      rfl
  | result step =>
      apply values
      apply List.mem_of_getElem?
      apply Option.join_eq_some_iff.mp fetched

theorem isValue_of_perform?
    {made : List (Option Computed)} (values : ∀ c, some c ∈ made → c.IsValue)
    {step : Step} {c : Computed} (computed : step.perform? made = some c) :
  c.IsValue
  := by
  obtain ⟨left, right, hleft, hright, performed, origin⟩ := perform?_eq_some_iff.mp computed
  rw [Computed.IsValue, origin, Expression.eval_operation_eq_ok_iff]
  exact ⟨left.node, right.node, isValue_of_fetch? values hleft, isValue_of_fetch? values hright,
    performed⟩

/-! ### Runs -/

theorem run_concat (steps : List Step) (step : Step) :
  run (steps ++ [step]) = run steps ++ [step.perform? (run steps)]
  := by
  rw [run, List.foldl_append]
  rfl

theorem length_run (steps : List Step) :
  (run steps).length = steps.length
  := by
  induction steps using List.reverseRecOn with
  | nil => rfl
  | append_singleton steps step ih =>
      rw [run_concat, List.length_append, List.length_append, ih]
      rfl

/-- A step is performed on what the steps before it have made. -/
theorem getElem?_run (steps : List Step) (k : Nat) :
  (run steps)[k]? = steps[k]?.map fun step => step.perform? (run (steps.take k))
  := by
  induction steps using List.reverseRecOn with
  | nil => rfl
  | append_singleton steps step ih =>
      rw [run_concat]
      rcases Nat.lt_or_ge k steps.length with earlier | later
      · rw [List.getElem?_append_left (by rw [length_run]; exact earlier), ih,
          List.getElem?_append_left earlier, List.take_append_of_le_length (by omega)]
      · rw [List.getElem?_append_right (by rw [length_run]; exact later), length_run,
          List.getElem?_append_right later]
        rcases Nat.eq_or_lt_of_le later with rfl | beyond
        · rw [Nat.sub_self, List.take_left]
          rfl
        · rw [List.getElem?_eq_none (by simp; omega), List.getElem?_eq_none (by simp; omega)]
          rfl

/-- What a script computes are values of expressions. -/
theorem isValue_of_mem_run (steps : List Step) :
  ∀ c, some c ∈ run steps → c.IsValue
  := by
  induction steps using List.reverseRecOn with
  | nil =>
      intro c mem
      cases mem
  | append_singleton steps step ih =>
      intro c mem
      rw [run_concat, List.mem_append, List.mem_singleton] at mem
      rcases mem with earlier | last
      · apply ih c earlier
      · apply isValue_of_perform? ih last.symm

/-- In a script no operation yields a payload that the kind of its result cannot carry.  Each node
that is computed follows from its operands, which are written down or were computed earlier, and has
the location of a leaf of the expression of which it is the value. -/
theorem run_computes (steps : List Step) :
  (∀ symbol left right e, perform symbol left right ≠ .error (.shape e))
    ∧ ∀ (k : Nat) (c : Computed), (run steps)[k]? = some (some c) →
      ∃ step left right, steps[k]? = some step
        ∧ step.left.fetch? (run (steps.take k)) = some left
        ∧ step.right.fetch? (run (steps.take k)) = some right
        ∧ Follows step.symbol left.node right.node c.node
        ∧ c.origin = .operation step.symbol left.origin right.origin
        ∧ c.origin.eval id id = .ok c.node
        ∧ ∃ leaf ∈ c.origin.leaves, c.node.loc = leaf.loc
  := by
  use perform_ne_shape
  intro k c made
  have value : c.IsValue := isValue_of_mem_run steps c (List.mem_of_getElem? made)
  rw [getElem?_run] at made
  obtain ⟨step, listed, computed⟩ := Option.map_eq_some_iff.mp made
  obtain ⟨left, right, hleft, hright, performed, origin⟩ := perform?_eq_some_iff.mp computed
  exact ⟨step, left, right, listed, hleft, hright, follows_of_perform performed, origin, value,
    Expression.loc_of_eval c.origin value⟩

/-- A dimension is made of a number and a word, divided by zero, tripled, and written behind a
string. -/
theorem run_computes_string :
  ∃ c step left right,
    (run [⟨"+", .leaf (.quantity none .plain (.int 2)), .leaf (.text none .identifier "px")⟩,
      ⟨"/", .result 0, .leaf (.quantity none .plain (.int 0))⟩,
      ⟨"*", .leaf (.quantity none .plain (.int 3)), .result 0⟩,
      ⟨"+", .leaf (.text (some ⟨1, 0, none⟩) .string "a"), .result 2⟩])[3]? = some (some c)
      ∧ c.node = .text (some ⟨1, 0, none⟩) .string "a6px"
      ∧ Follows step left right c.node
      ∧ ∃ leaf ∈ c.origin.leaves, c.node.loc = leaf.loc
  := by
  obtain ⟨step, left, right, -, -, -, follows, -, -, place⟩ := (run_computes
    [⟨"+", .leaf (.quantity none .plain (.int 2)), .leaf (.text none .identifier "px")⟩,
      ⟨"/", .result 0, .leaf (.quantity none .plain (.int 0))⟩,
      ⟨"*", .leaf (.quantity none .plain (.int 3)), .result 0⟩,
      ⟨"+", .leaf (.text (some ⟨1, 0, none⟩) .string "a"), .result 2⟩]).2 3 _ rfl
  exact ⟨_, step.symbol, left.node, right.node, rfl, rfl, follows, place⟩

end Script

end StyleValue
