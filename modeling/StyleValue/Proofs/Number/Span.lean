import StyleValue.Node.Items
import StyleValue.Proofs.Binary64.Distance
import StyleValue.Proofs.Number.Steps

/-!
# Spans

A span is a walk from its first number to its last, or to one step beyond that.  The step does not
turn the way round (`Direction.between_next`), so that an inclusive span is the walk to it on the
way to the last number (`Number.span_false_eq_ok_iff`).  The walk from a whole number to a whole
place counts the steps of its lead (`Direction.walk?_int`).  A span of whole numbers has all of them
from the first to the last (`Number.span_int`).
-/

namespace StyleValue

theorem Number.position?_int (n : Int) :
  (int n).position? = some (.units (n * Binary64.unitsPerOne))
  := rfl

namespace Direction

/-! ### Whole steps -/

/-- A step as a whole number. -/
def sign : Direction → Int
  | up => 1
  | down => -1

theorem next_int (d : Direction) (n : Int) :
  d.next (.int n) = .int (n + d.sign)
  := by
  cases d <;> rfl

theorem stride_eq (d : Direction) :
  d.stride = d.sign * Binary64.unitsPerOne
  := by
  cases d with
  | up => rw [stride, sign, Int.one_mul]
  | down => rw [stride, sign, Int.neg_one_mul]

theorem lead_mul (d : Direction) (m n c : Int) :
  d.lead (m * c) (n * c) = d.lead m n * c
  := by
  cases d <;> rw [lead, lead, Int.sub_mul]

theorem lead_add_sign (d : Direction) (m n : Int) :
  d.lead (m + d.sign) n = d.lead m n - 1
  := by
  cases d <;> rw [lead, sign, lead] <;> omega

theorem lead_sign_add (d : Direction) (m n : Int) :
  d.lead m (n + d.sign) = d.lead m n + 1
  := by
  cases d <;> rw [lead, sign, lead] <;> omega

/-- The lead counts the steps from the first whole number to the second. -/
theorem add_lead_mul_sign (d : Direction) (m n : Int) :
  m + d.lead m n * d.sign = n
  := by
  cases d <;> rw [lead, sign] <;> omega

theorem isBefore_units_iff {d : Direction} {a b : Number} {m n : Int}
    (ha : a.position? = some (.units m)) (hb : b.position? = some (.units n)) :
  d.isBefore a b ↔ 0 < d.lead m n
  := by
  rw [isBefore_iff, ← precedes_units_iff, ha, hb]
  constructor
  · rintro ⟨_, _, ⟨⟩, ⟨⟩, ahead⟩
    apply ahead
  · intro ahead
    exact ⟨_, _, rfl, rfl, ahead⟩

/-- A walk ends when its start is not before the end. -/
theorem walk?_of_not_isBefore {d : Direction} {a stop : Number} (h : ¬ d.isBefore a stop) :
  d.walk? a stop = some []
  := by
  rw [walk?, if_neg h]

/-- The walk from a whole number to a whole place has one number for each step of the lead. -/
theorem walk?_int (d : Direction) (a : Int) {b : Int} {stop : Number}
    (place : stop.position? = some (.units (b * Binary64.unitsPerOne))) :
  d.walk? (.int a) stop
    = some ((List.range (d.lead a b).toNat).map fun k => .int (a + k * d.sign))
  := by
  have positive := Int.natCast_pos.mpr Binary64.unitsPerOne_pos
  have before (c : Int) : d.isBefore (.int c) stop ↔ 0 < d.lead c b := by
    rw [isBefore_units_iff (Number.position?_int c) place, lead_mul,
      mul_pos_iff_of_pos_right positive]
  generalize steps : (d.lead a b).toNat = n
  induction n generalizing a with
  | zero =>
      apply walk?_of_not_isBefore
      rw [before]
      omega
  | succ n ih =>
      have ahead : d.isBefore (.int a) stop := by
        rw [before]
        omega
      have nearer : d.gap (d.next (.int a)) stop < d.gap (.int a) stop := by
        have start := Number.position?_int a
        rw [isBefore_units_iff start place] at ahead
        rw [gap_of_position? start place, gap_of_position? (position?_next_int d a) place,
          lead_add_stride]
        omega
      have rest := ih (a + d.sign) (by rw [lead_add_sign]; omega)
      rw [walk?, if_pos ahead, if_pos nearer, next_int, rest, List.range_succ_eq_map, List.map_cons,
        List.map_map, Option.map_some, Nat.cast_zero, Int.zero_mul, Int.add_zero]
      congr 2
      apply List.map_congr_left
      intro k _
      rw [Function.comp_apply, Nat.cast_succ, Int.add_mul, Int.one_mul, Int.add_assoc,
        Int.add_comm d.sign]

/-- A step from a finite number does not lead back. -/
theorem exists_position?_next_ahead (d : Direction) {a : Number} {m : Int}
    (h : a.position? = some (.units m)) :
  ∃ s, (d.next a).position? = some (.units s) ∧ 0 ≤ d.lead m s
  := by
  cases a with
  | int n =>
      cases h
      refine ⟨_, position?_next_int d n, ?_⟩
      cases d <;> rw [lead, stride] <;> omega
  | float x =>
      obtain ⟨y, step, place⟩ := position?_next_float d h
      rw [step]
      refine ⟨_, place, ?_⟩
      have near := lead_nearest_le (d := d) m (Binary64.representable_of_position? h)
      cases d <;> simp only [lead] at near ⊢ <;> omega

/-! ### The way between two numbers -/

section

variable {a b : Number} {m n : Int} (ha : a.position? = some (.units m))
  (hb : b.position? = some (.units n))

include ha hb

theorem between_eq :
  between a b = if m ≤ n then up else down
  := by
  have le : a.le b ↔ m ≤ n := by
    simp only [Number.le, Number.lt, Number.equals, ha, hb, Position.lt, Bool.or_eq_true,
      decide_eq_true_eq, Position.units.injEq]
    omega
  simp only [between, le]

theorem lead_between_nonneg :
  0 ≤ (between a b).lead m n
  := by
  rw [between_eq ha hb]
  split <;> rw [lead] <;> omega

/-- The way to one step beyond the second number is the same. -/
theorem between_next :
  between a ((between a b).next b) = between a b
  := by
  obtain ⟨s, place, beyond⟩ := exists_position?_next_ahead (between a b) hb
  rw [between_eq ha hb] at beyond place ⊢
  rw [between_eq ha place]
  split at beyond
  next up =>
    rw [lead] at beyond
    rw [if_pos up, if_pos (by omega)]
  next down =>
    rw [lead] at beyond
    rw [if_neg down, if_neg (by omega)]

end

theorem between_int (a b : Int) :
  between (.int a) (.int b) = if a ≤ b then up else down
  := by
  have positive := Int.natCast_pos.mpr Binary64.unitsPerOne_pos
  rw [between_eq (Number.position?_int a) (Number.position?_int b)]
  simp only [Int.mul_le_mul_right positive]

end Direction

namespace Number

open Direction

/-- An inclusive span is the walk to one step beyond the last number, on the way to that number. -/
theorem span_false_eq_ok_iff {a b : Number} {m n : Int} (ha : a.position? = some (.units m))
    (hb : b.position? = some (.units n)) {numbers : List Number} :
  a.span b false = .ok numbers
    ↔ (between a b).walk? a ((between a b).next b) = some numbers
  := by
  simp only [span, Bool.false_eq_true, if_false, between_next ha hb]
  cases (between a b).walk? a ((between a b).next b) <;> simp

/-- A span of whole numbers moves in steps of one from the first to the last, the latter left out
when it is exclusive. -/
theorem span_int (a b : Int) (exclusive : Bool) :
  (int a).span (int b) exclusive
    = .ok ((List.range ((b - a).natAbs + if exclusive then 0 else 1)).map
      fun k : Nat => int (a + k * if a ≤ b then 1 else -1))
  := by
  have way : (between (int a) (int b)).sign = if a ≤ b then 1 else -1 := by
    rw [between_int]
    split <;> rfl
  have lead : (between (int a) (int b)).lead a b = (b - a).natAbs := by
    rw [between_int]
    split <;> rw [Direction.lead] <;> omega
  rw [← way]
  cases exclusive with
  | true =>
      simp only [span, if_true, walk?_int _ a (position?_int b), lead]
      rfl
  | false =>
      have place := position?_int (b + (between (int a) (int b)).sign)
      have steps : (between (int a) (int b)).lead a (b + (between (int a) (int b)).sign)
          = (b - a).natAbs + 1 := by rw [lead_sign_add, lead]
      apply (span_false_eq_ok_iff (position?_int a) (position?_int b)).mpr
      rw [next_int, walk?_int _ a place, steps]
      rfl

end Number

end StyleValue
