import Mathlib.Logic.Function.Iterate
import StyleValue.Number.Steps
import StyleValue.Proofs.Binary64.Sum

/-!
# Endless walks

A walk towards an end is endless when every number on its way lies before the end
(`Direction.walk?_eq_none_iff`).  To tell that, a walk looks one step ahead only: it is given up at
the first step that does not come nearer to the end.  Such a step starts from an infinity, or has
one ahead, or starts where numbers lie so far apart that one more is rounded back to the same place.
In each of these cases every later step is of the same sort
(`Direction.isBefore_iterate_of_stuck`).
-/

namespace StyleValue

theorem Binary64.position?_one :
  one.position? = some (.units unitsPerOne)
  := by
  have exact := nearestUnits_of_representable representable_unitsPerOne
  have inRange : nearestUnits unitsPerOne 1 < limit := by
    rw [exact]
    apply representable_unitsPerOne.1
  rw [one, ofQuotient, Nat.mul_one, position?_round _ inRange, exact]
  rfl

/-- A number has a finite place, or it is an infinity. -/
theorem Number.units_or_infinity {a : Number} {p : Position} (h : a.position? = some p) :
  (∃ n, p = .units n) ∨ ∃ negative, a = .float (.infinity negative)
  := by
  rcases a with n | _ | negative | ⟨s, u, hu⟩
  · cases h
    exact Or.inl ⟨_, rfl⟩
  · cases h
  · exact Or.inr ⟨negative, rfl⟩
  · cases h
    exact Or.inl ⟨_, rfl⟩

namespace Direction

/-! ### Single steps -/

/-- How many units a step moves. -/
def stride : Direction → Int
  | up => Binary64.unitsPerOne
  | down => -Binary64.unitsPerOne

theorem position?_next_int (d : Direction) (n : Int) :
  (d.next (.int n)).position? = some (.units (n * Binary64.unitsPerOne + d.stride))
  := by
  cases d with
  | up => rw [next, Number.position?, Int.add_mul, Int.one_mul]; rfl
  | down => rw [next, Number.position?, Int.sub_mul, Int.one_mul]; rfl

/-- A step from a finite floating-point number rounds the new position. -/
theorem position?_next_float (d : Direction) {x : Binary64} {m : Int}
    (h : x.position? = some (.units m)) :
  ∃ y, d.next (.float x) = .float y ∧ y.position? = some (.units (Binary64.nearest (m + d.stride)))
  := by
  have representable := Binary64.representable_of_position? h
  cases d with
  | up =>
      refine ⟨_, rfl, Binary64.position?_add h Binary64.position?_one ?_⟩
      apply Binary64.nearestUnits_lt_limit representable
      rw [← Int.natAbs_natCast Binary64.unitsPerOne]
      apply Int.natAbs_add_le
  | down =>
      refine ⟨_, rfl, Binary64.position?_add h (Binary64.position?_neg Binary64.position?_one) ?_⟩
      apply Binary64.nearestUnits_lt_limit representable
      rw [← Int.natAbs_natCast Binary64.unitsPerOne]
      apply Int.natAbs_sub_le

theorem exists_position?_next (d : Direction) {a : Number} {m : Int}
    (h : a.position? = some (.units m)) :
  ∃ m', (d.next a).position? = some (.units m')
  := by
  cases a with
  | int n => exact ⟨_, position?_next_int d n⟩
  | float x =>
      obtain ⟨y, step, place⟩ := position?_next_float d h
      rw [step]
      exact ⟨_, place⟩

/-- An infinity is where a step from it leads. -/
theorem next_infinity (d : Direction) (negative : Bool) :
  d.next (.float (.infinity negative)) = .float (.infinity negative)
  := by
  obtain ⟨s, u, h, one, -⟩ := Binary64.position?_eq_units_iff.mp Binary64.position?_one
  cases d with
  | up => rw [next, one]; rfl
  | down => rw [next, one]; rfl

/-! ### Steps that come no nearer -/

/-- The first place comes before the second on the way. -/
def precedes : Direction → Position → Position → Bool
  | up, p, q => p.lt q
  | down, p, q => q.lt p

theorem isBefore_iff {d : Direction} {a b : Number} :
  d.isBefore a b ↔ ∃ p q, a.position? = some p ∧ b.position? = some q ∧ d.precedes p q
  := by
  cases d <;> cases ha : a.position? <;> cases hb : b.position? <;>
    simp [isBefore, precedes, Number.lt, ha, hb]

/-- A walk is endless from numbers that lie before the end and are left for such numbers only. -/
theorem isBefore_iterate {d : Direction} {stop : Number} (P : Number → Prop)
    (before : ∀ a, P a → d.isBefore a stop) (closed : ∀ a, P a → P (d.next a)) {a : Number}
    (h : P a) (k : Nat) :
  d.isBefore (d.next^[k] a) stop
  := by
  induction k generalizing a with
  | zero => apply before a h
  | succ k ih => apply ih (closed a h)

/-- An infinity is never left. -/
theorem isBefore_iterate_infinity {d : Direction} {stop : Number} {negative : Bool}
    (before : d.isBefore (.float (.infinity negative)) stop) (k : Nat) :
  d.isBefore (d.next^[k] (.float (.infinity negative))) stop
  := by
  apply isBefore_iterate (· = .float (.infinity negative))
  · rintro _ rfl
    exact before
  · rintro _ rfl
    apply next_infinity
  · rfl

/-- No number of steps leads from a finite number to an infinity. -/
theorem isBefore_iterate_of_infinite {d : Direction} {a stop : Number} {m : Int} {q : Position}
    (start : a.position? = some (.units m)) (place : stop.position? = some q)
    (infinite : ∀ n, q ≠ .units n) (ahead : d.precedes (.units m) q) (k : Nat) :
  d.isBefore (d.next^[k] a) stop
  := by
  apply isBefore_iterate (fun b => ∃ n, b.position? = some (.units n))
  · rintro b ⟨n, hb⟩
    apply isBefore_iff.mpr ⟨_, q, hb, place, ?_⟩
    cases d <;> cases q <;> first | rfl | cases ahead | exact absurd rfl (infinite _)
  · rintro b ⟨n, hb⟩
    apply exists_position?_next d hb
  · exact ⟨m, start⟩

/-- Where numbers lie far apart, one more is rounded back to the same place. -/
theorem isBefore_iterate_of_nearest {d : Direction} {stop : Number} {x : Binary64} {m : Int}
    {q : Position} (start : x.position? = some (.units m)) (place : stop.position? = some q)
    (same : Binary64.nearest (m + d.stride) = m) (ahead : d.precedes (.units m) q) (k : Nat) :
  d.isBefore (d.next^[k] (.float x)) stop
  := by
  apply isBefore_iterate (fun b => ∃ y : Binary64, b = .float y ∧ y.position? = some (.units m))
  · rintro _ ⟨y, rfl, hy⟩
    exact isBefore_iff.mpr ⟨_, q, hy, place, ahead⟩
  · rintro _ ⟨y, rfl, hy⟩
    obtain ⟨z, step, hz⟩ := position?_next_float d hy
    rw [same] at hz
    exact ⟨z, step, hz⟩
  · exact ⟨x, rfl, start⟩

/-- How far the second of two places lies ahead of the first. -/
def lead : Direction → Int → Int → Int
  | up, m, n => n - m
  | down, m, n => m - n

theorem precedes_units_iff {d : Direction} {m n : Int} :
  d.precedes (.units m) (.units n) ↔ 0 < d.lead m n
  := by
  cases d <;> simp [precedes, Position.lt, lead]

theorem gap_of_position? {d : Direction} {a b : Number} {m n : Int}
    (ha : a.position? = some (.units m)) (hb : b.position? = some (.units n)) :
  d.gap a b = (d.lead m n).toNat
  := by
  cases d <;> simp only [gap, lead, ha, hb]

theorem lead_add_stride (d : Direction) (m n : Int) :
  d.lead (m + d.stride) n = d.lead m n - Binary64.unitsPerOne
  := by
  cases d <;> rw [lead, stride, lead] <;> omega

theorem lead_injective {d : Direction} {m m' n : Int} (h : d.lead m n = d.lead m' n) :
  m = m'
  := by
  cases d <;> rw [lead, lead] at h <;> omega

/-- Rounding a step does not lead back. -/
theorem lead_nearest_le {d : Direction} {m : Int} (n : Int)
    (h : Binary64.Representable m.natAbs) :
  d.lead (Binary64.nearest (m + d.stride)) n ≤ d.lead m n
  := by
  have exact := Binary64.nearest_of_representable h
  cases d with
  | up =>
      have mono := Binary64.nearest_mono (show m ≤ m + stride up by rw [stride]; omega)
      rw [lead, lead]
      omega
  | down =>
      have mono := Binary64.nearest_mono (show m + stride down ≤ m by rw [stride]; omega)
      rw [lead, lead]
      omega

/-- A finite number that a step does not bring nearer to a finite end is a floating-point number,
and the step leads back to its place. -/
theorem nearest_of_stuck {d : Direction} {a stop : Number} {m n : Int}
    (start : a.position? = some (.units m)) (place : stop.position? = some (.units n))
    (ahead : d.precedes (.units m) (.units n)) (stuck : ¬ d.gap (d.next a) stop < d.gap a stop) :
  ∃ x : Binary64, a = .float x ∧ Binary64.nearest (m + d.stride) = m
  := by
  rw [gap_of_position? start place] at stuck
  rw [precedes_units_iff] at ahead
  cases a with
  | int i =>
      exfalso
      apply stuck
      have positive := Binary64.unitsPerOne_pos
      cases start
      rw [gap_of_position? (position?_next_int d i) place, lead_add_stride]
      omega
  | float x =>
      use x, rfl
      obtain ⟨y, step, hy⟩ := position?_next_float d start
      have near := lead_nearest_le (d := d) n (Binary64.representable_of_position? start)
      have gap : d.gap (.float y) stop = _ := gap_of_position? hy place
      rw [step, gap] at stuck
      have same : d.lead (Binary64.nearest (m + d.stride)) n = d.lead m n := by omega
      apply lead_injective same

/-- A step that comes no nearer is followed by such steps only. -/
theorem isBefore_iterate_of_stuck {d : Direction} {a stop : Number} (before : d.isBefore a stop)
    (stuck : ¬ d.gap (d.next a) stop < d.gap a stop) (k : Nat) :
  d.isBefore (d.next^[k] a) stop
  := by
  obtain ⟨p, q, start, place, ahead⟩ := isBefore_iff.mp before
  rcases Number.units_or_infinity start with ⟨m, rfl⟩ | ⟨negative, rfl⟩
  · rcases Number.units_or_infinity place with ⟨n, rfl⟩ | ⟨negative, rfl⟩
    · obtain ⟨x, rfl, same⟩ := nearest_of_stuck start place ahead stuck
      apply isBefore_iterate_of_nearest start place same ahead
    · apply isBefore_iterate_of_infinite start place _ ahead
      cases negative <;> cases place <;> rintro _ ⟨⟩
  · apply isBefore_iterate_infinity before

/-- A walk is endless when every number on the way lies before the end. -/
theorem walk?_eq_none_iff (d : Direction) (a stop : Number) :
  d.walk? a stop = none ↔ ∀ k, d.isBefore (d.next^[k] a) stop
  := by
  fun_induction walk? d a stop with
  | case1 a before nearer ih =>
      rw [Option.map_eq_none_iff, ih]
      constructor
      · rintro rest (_ | k)
        · exact before
        · exact rest k
      · intro all k
        exact all (k + 1)
  | case2 a before stuck =>
      constructor
      · rintro -
        apply isBefore_iterate_of_stuck before stuck
      · intro
        rfl
  | case3 a after =>
      constructor
      · rintro ⟨⟩
      · intro all
        exact absurd (all 0) after

end Direction

end StyleValue
