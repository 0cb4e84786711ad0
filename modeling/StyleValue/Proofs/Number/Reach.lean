import StyleValue.Proofs.Number.Way

/-!
# Spans that reach their end

An inclusive span walks up to a place one step beyond its end.  It leads to the end if the end is
among the numbers that a walk from the first number can come by, and if the step beyond leads from
there to the next such number or to none (`Number.StepsOver`).  Between whole numbers this is always
so, and between floating-point numbers unless the step is rounded back to the end.
-/

namespace StyleValue

namespace Number

open Direction

/-- The numbers start with one number and end with another, in one form or another. -/
def LeadFromTo (numbers : List Number) (first last : Number) : Prop :=
  ∃ x y, numbers.head? = some x ∧ numbers.getLast? = some y ∧ x.equals first ∧ y.equals last

/-- The end is among the numbers that a walk can come by, and the step beyond it leads from there to
the next of them, or to none. -/
def StepsOver (first last : Number) : Prop :=
  let d := between first last
  match first with
  | int _ => ∃ n, (int n).equals last ∧ (int (n + d.sign)).equals (d.next last)
  | float _ => (∃ x, (float x).equals last) ∧ d.isBefore last (d.next last)

theorem equals_iff_position? {a b : Number} {p : Position} (h : b.position? = some p) :
  a.equals b ↔ a.position? = some p
  := by
  rw [equals, h]
  cases a.position? <;> simp

theorem equals_of_whole {a b : Number} {m n : Int}
    (ha : a.position? = some (.units (m * Binary64.unitsPerOne)))
    (hb : b.position? = some (.units (n * Binary64.unitsPerOne))) :
  a.equals b ↔ m = n
  := by
  rw [equals_iff_position? hb, ha, Option.some.injEq, Position.units.injEq]
  apply Int.mul_eq_mul_right_iff
  exact Int.natCast_ne_zero.mpr (Nat.ne_of_gt Binary64.unitsPerOne_pos)

/-- What lies a whole distance from a whole place is whole. -/
theorem exists_whole {a n : Int}
    (apart : (Binary64.unitsPerOne : Int) ∣ n - a * Binary64.unitsPerOne) :
  ∃ b, n = b * Binary64.unitsPerOne
  := by
  obtain ⟨k, distance⟩ := apart
  use a + k
  rw [Int.add_mul, Int.mul_comm k, ← distance, add_sub_cancel]

/-- Numbers that count from one whole number up to another lead to any number that is one step
before the latter, and to that one only. -/
theorem leadFromTo_range_iff {d : Direction} {a b c : Int} {last : Number}
    (place : last.position? = some (.units (b * Binary64.unitsPerOne))) (ahead : 0 ≤ d.lead a b) :
  LeadFromTo ((List.range (d.lead a c).toNat).map fun k : Nat => int (a + k * d.sign)) (int a) last
    ↔ c = b + d.sign
  := by
  cases steps : (d.lead a c).toNat with
  | zero =>
      have none : c ≠ b + d.sign := by
        rintro rfl
        rw [lead_sign_add] at steps
        omega
      simp [LeadFromTo, none]
  | succ k =>
      have lead : d.lead a c = k + 1 := by omega
      have stop : c = a + k * d.sign + d.sign := by
        rw [← add_lead_mul_sign d a c, lead, Int.add_mul, Int.one_mul, Int.add_assoc]
      have first := equals_of_whole (position?_int a) (position?_int a)
      have final := equals_of_whole (position?_int (a + k * d.sign)) place
      rw [stop, Int.add_left_inj, ← final]
      simp [LeadFromTo, List.head?_range, List.getLast?_range, first]

/-- The step beyond a whole end is whole, or it is rounded to another whole number. -/
theorem stepsOver_int_iff {a b c : Int} {last : Number}
    (place : last.position? = some (.units (b * Binary64.unitsPerOne)))
    (place' : ((between (int a) last).next last).position?
      = some (.units (c * Binary64.unitsPerOne))) :
  (int a).StepsOver last ↔ c = b + (between (int a) last).sign
  := by
  simp only [StepsOver, equals_of_whole (position?_int _) place,
    equals_of_whole (position?_int _) place', exists_eq_left]
  apply eq_comm

/-- A span from a whole number to a whole end leads there exactly when the step beyond it does not
have to be rounded. -/
theorem leadFromTo_span_int_iff {a b : Int} {last : Number}
    (place : last.position? = some (.units (b * Binary64.unitsPerOne))) {numbers : List Number}
    (spanned : (int a).span last false = .ok numbers) :
  LeadFromTo numbers (int a) last ↔ (int a).StepsOver last
  := by
  have positive := Int.natCast_pos.mpr Binary64.unitsPerOne_pos
  have start := position?_int a
  obtain ⟨c, place'⟩ := exists_position?_next_whole (between (int a) last) place
  rw [span_false_eq_ok_iff start place, walk?_int _ a place'] at spanned
  cases spanned
  rw [stepsOver_int_iff place place']
  apply leadFromTo_range_iff place
  have ahead := lead_between_nonneg start place
  rw [lead_mul] at ahead
  apply Int.nonneg_of_mul_nonneg_left ahead positive

/-- A span of floating-point numbers, at a whole distance from its end, leads there exactly when the
end is among the floating-point numbers and the step beyond it is not rounded back. -/
theorem leadFromTo_span_float_iff {x : Binary64} {last : Number} {m n : Int}
    (start : (float x).position? = some (.units m)) (place : last.position? = some (.units n))
    (apart : (Binary64.unitsPerOne : Int) ∣ n - m) {numbers : List Number}
    (spanned : (float x).span last false = .ok numbers) :
  LeadFromTo numbers (float x) last ↔ (float x).StepsOver last
  := by
  have walked := (span_false_eq_ok_iff start place).mp spanned
  have ahead := lead_between_nonneg start place
  rw [StepsOver]
  generalize between (float x) last = d at *
  obtain ⟨s, place'⟩ := exists_position?_next d place
  constructor
  · -- the last number of the walk comes before its end, so what is equal to it does too
    rintro ⟨_, y, -, final, -, equal⟩
    have kept := forall_mem_of_walk? (fun a => ∃ x, a = float x)
      (by rintro _ ⟨x, rfl⟩; apply next_float) ⟨x, rfl⟩ walked
    obtain ⟨⟨z, rfl⟩, before⟩ := kept y (List.mem_of_getLast? final)
    have final := (equals_iff_position? place).mp equal
    rw [isBefore_units_iff final place'] at before
    exact ⟨⟨z, equal⟩, (isBefore_units_iff place place').mpr before⟩
  · rintro ⟨⟨z, equal⟩, before⟩
    have hn := Binary64.representable_of_position? ((equals_iff_position? place).mp equal)
    rw [isBefore_units_iff place place'] at before
    have here := isOnWay_self start ahead apart
    obtain ⟨y, final, reached⟩ := getLast?_of_walk? (d.IsOnWay m n)
      (fun a => a.position? = some (.units n)) (fun a h => h.isBefore place' before)
      (fun a h different => h.next hn different)
      (fun a h reached nearer => not_isBefore_next h.1 reached place nearer) here walked
    cases numbers with
    | nil => cases final
    | cons a rest =>
        obtain ⟨rfl, -⟩ := walk?_eq_some_cons_iff.mp walked
        exact ⟨_, y, rfl, final, (equals_iff_position? start).mpr start,
          (equals_iff_position? place).mpr reached⟩

/-- Whether an inclusive span between finite numbers a whole distance apart leads from one to the
other. -/
theorem leadFromTo_span_iff {first last : Number} {m n : Int}
    (start : first.position? = some (.units m)) (place : last.position? = some (.units n))
    (apart : (Binary64.unitsPerOne : Int) ∣ n - m) {numbers : List Number}
    (spanned : first.span last false = .ok numbers) :
  LeadFromTo numbers first last ↔ first.StepsOver last
  := by
  cases first with
  | int a =>
      cases start
      obtain ⟨b, rfl⟩ := exists_whole apart
      apply leadFromTo_span_int_iff place spanned
  | float x => apply leadFromTo_span_float_iff start place apart spanned

/-! ### Spans of small numbers -/

/-- A small number, in floating point. -/
theorem exists_float_equals {a : Number} {m : Int} (place : a.position? = some (.units m))
    (h : m.natAbs < 2 ^ 53 * Binary64.unitsPerOne) :
  ∃ x, (float x).equals a
  := by
  cases a with
  | float x => exact ⟨x, (equals_iff_position? place).mpr place⟩
  | int n =>
      cases place
      rw [Int.natAbs_mul, Int.natAbs_natCast, Nat.mul_lt_mul_right Binary64.unitsPerOne_pos] at h
      obtain ⟨x, -, place⟩ := Binary64.exists_ofInt? (Nat.le_of_lt h)
      exact ⟨x, (equals_iff_position? (position?_int n)).mpr place⟩

/-- A step from a small whole number is not rounded. -/
theorem position?_next_of_small (d : Direction) {a : Number} {n : Int}
    (place : a.position? = some (.units (n * Binary64.unitsPerOne))) (h : n.natAbs < 2 ^ 53) :
  (d.next a).position? = some (.units ((n + d.sign) * Binary64.unitsPerOne))
  := by
  cases a with
  | int b =>
      rw [position?_int, Option.some.injEq, Position.units.injEq] at place
      rw [next_int, position?_int, Int.add_mul, place, ← Int.add_mul]
  | float x =>
      have small : (n + d.sign).natAbs ≤ 2 ^ 53 := by cases d <;> rw [sign] <;> omega
      rw [position?_next_of_float place, stride_eq, ← Int.add_mul, Binary64.nearest_whole small]

section

variable {first last : Number} {m n : Int} (start : first.position? = some (.units m))
  (place : last.position? = some (.units n)) (apart : (Binary64.unitsPerOne : Int) ∣ n - m)

include start place apart

theorem stepsOver_of_small (hn : n.natAbs < 2 ^ 53 * Binary64.unitsPerOne) :
  first.StepsOver last
  := by
  cases first with
  | float x =>
      obtain ⟨s, place', beyond⟩ := exists_position?_next_beyond (between (float x) last) place hn
      exact ⟨exists_float_equals place hn, (isBefore_units_iff place place').mpr beyond⟩
  | int a =>
      cases start
      obtain ⟨b, rfl⟩ := exists_whole apart
      rw [Int.natAbs_mul, Int.natAbs_natCast, Nat.mul_lt_mul_right Binary64.unitsPerOne_pos] at hn
      rw [stepsOver_int_iff place (position?_next_of_small _ place hn)]

theorem exists_span_of_small (hm : m.natAbs < 2 ^ 53 * Binary64.unitsPerOne)
    (hn : n.natAbs < 2 ^ 53 * Binary64.unitsPerOne) :
  ∃ numbers, first.span last false = .ok numbers
  := by
  simp only [span_false_eq_ok_iff start place]
  have ahead := lead_between_nonneg start place
  generalize between first last = d at *
  cases first with
  | int a =>
      cases start
      obtain ⟨b, rfl⟩ := exists_whole apart
      obtain ⟨c, place'⟩ := exists_position?_next_whole d place
      exact ⟨_, walk?_int d a place'⟩
  | float x =>
      obtain ⟨s, place', beyond⟩ := exists_position?_next_beyond d place hn
      obtain ⟨y, equal⟩ := exists_float_equals place hn
      have exact := Binary64.representable_of_position? ((equals_iff_position? place).mp equal)
      obtain ⟨numbers, walked⟩ := exists_walk? (d.IsOnWay m n)
        (fun a => a.position? = some (.units n)) (fun a h different => h.next exact different)
        (fun a h => h.gap_next_lt place' beyond hm hn)
        (fun a h reached => not_isBefore_next h.1 reached place (h.gap_next_lt place' beyond hm hn))
        (isOnWay_self start ahead apart)
      exact ⟨numbers, walked⟩

end

end Number

end StyleValue
