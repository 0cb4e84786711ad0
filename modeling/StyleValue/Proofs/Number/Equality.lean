import StyleValue.Number.Basic
import StyleValue.Proofs.Number.Overflow

/-!
# Equality of numbers

A number that is whole has many forms: a whole number, and a floating-point number, or two of them
for zero.  Its *canonical* form is the whole number; all other numbers have one form only.  Two
numbers are equal exactly when they have the same canonical form, unless that form is
not-a-number (`Number.equals_iff`).
-/

namespace StyleValue

namespace Binary64

theorem natAbs_signed (negative : Bool) (n : Nat) :
  (signed negative n).natAbs = n
  := by
  cases negative
  · apply Int.natAbs_natCast
  · rw [signed, if_pos rfl, Int.natAbs_neg, Int.natAbs_natCast]

theorem signed_mul (negative : Bool) (m n : Nat) :
  signed negative m * n = signed negative (m * n)
  := by
  cases negative <;> simp [signed]

/-- The sign of a number of units can be told unless there are none. -/
theorem eq_of_signed_eq {negative negative' : Bool} {m n : Nat}
    (h : signed negative m = signed negative' n) :
  m = n ∧ (m = 0 ∨ negative = negative')
  := by
  have same := congrArg Int.natAbs h
  rw [natAbs_signed, natAbs_signed] at same
  use same
  subst same
  cases negative <;> cases negative' <;> simp [signed] at h ⊢ <;> omega

/-- A floating-point number is whole when it lies where a whole number does. -/
theorem toInt?_eq_some_iff {x : Binary64} {n : Int} :
  x.toInt? = some n ↔ x.position? = some (.units (n * unitsPerOne))
  := by
  have positive := unitsPerOne_pos
  rcases x with _ | negative | ⟨negative, units, h⟩
  · simp [toInt?, position?]
  · cases negative <;> simp [toInt?, position?]
  · simp only [toInt?, position?, Option.some.injEq, Position.units.injEq]
    constructor
    · intro whole
      split at whole
      next divides =>
        obtain rfl := Option.some.inj whole
        rw [signed_mul, Nat.div_mul_cancel (Nat.dvd_of_mod_eq_zero divides)]
      next => contradiction
    · intro place
      have magnitude : units = n.natAbs * unitsPerOne := by
        rw [← natAbs_signed negative units, place, Int.natAbs_mul, Int.natAbs_natCast]
      rw [if_pos (by rw [magnitude, Nat.mul_mod_left]), Option.some.injEq]
      apply Int.eq_of_mul_eq_mul_right (Int.natCast_ne_zero.mpr (Nat.ne_of_gt positive))
      rw [signed_mul, ← place, magnitude, Nat.mul_div_cancel _ positive]

/-- Only zero, which is whole, has two forms at one place. -/
theorem eq_of_position? {x y : Binary64} {p : Position} (hx : x.position? = some p)
    (hy : y.position? = some p) (h : x.toInt? = none) :
  x = y
  := by
  rcases x with _ | ⟨_ | _⟩ | ⟨negative, units, hunits⟩ <;> cases hx <;>
    rcases y with _ | ⟨_ | _⟩ | ⟨negative', units', hunits'⟩ <;> try cases hy
  · rfl
  · rfl
  · rw [position?, Option.some.injEq, Position.units.injEq] at hy
    obtain ⟨rfl, zero | rfl⟩ := eq_of_signed_eq hy
    · have whole : units' % unitsPerOne = 0 := by rw [zero, Nat.zero_mod]
      rw [toInt?, if_pos whole] at h
      contradiction
    · rfl

end Binary64

namespace Number

/-- The whole number that a number is, or else the number itself. -/
def canonical : Number → Number
  | .int n => .int n
  | .float x =>
      match x.toInt? with
      | some n => .int n
      | none => .float x

theorem position?_canonical (x : Number) :
  x.canonical.position? = x.position?
  := by
  cases x with
  | int n => rfl
  | float x =>
      rw [canonical]
      cases whole : x.toInt? with
      | none => rfl
      | some n => exact (Binary64.toInt?_eq_some_iff.mp whole).symm

theorem position?_eq_none_iff {x : Number} :
  x.position? = none ↔ x.isNaN
  := by
  rcases x with n | _ | ⟨_ | _⟩ | ⟨negative, units, h⟩ <;>
    simp [position?, isNaN, Binary64.position?, Binary64.isNaN]

theorem isNaN_canonical (x : Number) :
  x.canonical.isNaN = x.isNaN
  := by
  rw [Bool.eq_iff_iff, ← position?_eq_none_iff, ← position?_eq_none_iff, position?_canonical]

theorem canonical_eq_of_position? {x y : Number} {p : Position} (hx : x.position? = some p)
    (hy : y.position? = some p) :
  x.canonical = y.canonical
  := by
  have positive := Binary64.unitsPerOne_pos
  rcases x with m | x <;> rcases y with n | y
  · have same := hx.trans hy.symm
    rw [position?, position?, Option.some.injEq, Position.units.injEq] at same
    obtain rfl := Int.eq_of_mul_eq_mul_right (Int.natCast_ne_zero.mpr (Nat.ne_of_gt positive)) same
    rfl
  · have whole : y.toInt? = some m := Binary64.toInt?_eq_some_iff.mpr (hy.trans hx.symm)
    rw [canonical, canonical, whole]
  · have whole : x.toInt? = some n := Binary64.toInt?_eq_some_iff.mpr (hx.trans hy.symm)
    rw [canonical, canonical, whole]
  · rw [canonical, canonical]
    cases whole : x.toInt? with
    | some n =>
        have whole' : y.toInt? = some n := by
          rw [Binary64.toInt?_eq_some_iff] at whole ⊢
          exact hy.trans (hx.symm.trans whole)
        rw [whole']
    | none =>
        obtain rfl := Binary64.eq_of_position? hx hy whole
        rw [whole]

/-- Numbers at one place have the same canonical form. -/
theorem canonical_eq_iff {a b : Number} :
  a.canonical = b.canonical ↔ a.position? = b.position?
  := by
  constructor
  · intro same
    rw [← position?_canonical a, same, position?_canonical]
  · intro same
    cases place : a.position? with
    | some p => exact canonical_eq_of_position? place (same ▸ place)
    | none =>
        have nan {c : Number} (h : c.position? = none) : c = .float .nan := by
          rw [position?_eq_none_iff] at h
          rcases c with _ | _ | _ | _ <;> cases h
          rfl
        have place' : b.position? = none := by rw [← same, place]
        rw [nan place, nan place']

/-- Numbers are equal when they have the same canonical form; not-a-number equals nothing. -/
theorem equals_iff {x y : Number} :
  x.equals y ↔ ¬ x.isNaN ∧ x.canonical = y.canonical
  := by
  constructor
  · intro equal
    rw [equals] at equal
    split at equal
    next p q hx hy =>
      obtain rfl := of_decide_eq_true equal
      constructor
      · rw [← position?_eq_none_iff, hx]
        rintro ⟨⟩
      · apply canonical_eq_of_position? hx hy
    next => contradiction
  · rintro ⟨number, same⟩
    have place := position?_canonical x
    rw [same, position?_canonical] at place
    rw [← position?_eq_none_iff] at number
    obtain ⟨p, hp⟩ := Option.ne_none_iff_exists'.mp number
    rw [equals, place, hp]
    exact decide_eq_true rfl

/-- Numbers at one place are equal, or neither is a number. -/
theorem position?_eq_iff {a b : Number} :
  a.position? = b.position? ↔ a.equals b ∨ a.isNaN ∧ b.isNaN
  := by
  rw [equals_iff, canonical_eq_iff, ← position?_eq_none_iff, ← position?_eq_none_iff]
  constructor
  · intro same
    rcases eq_or_ne a.position? none with nan | number
    · exact Or.inr ⟨nan, same ▸ nan⟩
    · exact Or.inl ⟨number, same⟩
  · rintro (⟨-, same⟩ | ⟨nan, nan'⟩)
    · exact same
    · rw [nan, nan']

/-- Whole numbers are equal when they are the same. -/
theorem equals_int (m n : Int) :
  (int m).equals (int n) = decide (m = n)
  := by
  rw [Bool.eq_iff_iff, equals_iff, decide_eq_true_eq, canonical, canonical, Number.int.injEq]
  exact and_iff_right nofun

/-- The numbers equal to zero are the zeros of either sign. -/
theorem equals_int_zero (x : Number) :
  x.equals (.int 0) = x.isZero
  := by
  have positive := Binary64.unitsPerOne_pos
  rcases x with n | _ | ⟨_ | _⟩ | ⟨negative, units, h⟩
  · simp only [equals, position?, isZero, Position.units.injEq, decide_eq_decide]
    constructor
    · intro equal
      rw [Int.zero_mul, Int.mul_eq_zero] at equal
      omega
    · rintro rfl
      rfl
  · rfl
  · rfl
  · rfl
  · simp only [equals, position?, isZero, Binary64.position?, Binary64.isZero_finite,
      Position.units.injEq, decide_eq_decide, Binary64.signed]
    cases negative <;> simp

/-- Zeros lie at the origin, and nothing else does. -/
theorem isZero_of_position? {x : Number} {n : Int} (h : x.position? = some (.units n)) :
  x.isZero = decide (n = 0)
  := by
  rw [← equals_int_zero, equals, h]
  simp only [position?, Int.zero_mul, Position.units.injEq]

theorem isZero_canonical (x : Number) :
  x.canonical.isZero = x.isZero
  := by
  rw [← equals_int_zero, ← equals_int_zero, equals, position?_canonical, equals]

theorem isZero_eq_of_position? {a b : Number} (h : a.position? = b.position?) :
  a.isZero = b.isZero
  := by
  rw [← isZero_canonical, canonical_eq_iff.mpr h, isZero_canonical]

end Number

end StyleValue
