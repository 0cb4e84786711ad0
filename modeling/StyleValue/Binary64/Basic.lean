import StyleValue.Rounding

/-!
# Binary floating-point numbers

`Binary64` holds the numbers of the 64-bit binary interchange format: not-a-number, the two
infinities, and the finite numbers.  Every finite number is a whole multiple of the *unit* 2⁻¹⁰⁷⁴,
the least positive number of the format, and is stored as that multiple, with its sign apart so
that there are two zeros.  Which multiples occur is said by `Binary64.Representable`.

`Binary64.round` is the one way from an exact quotient of units into the format, so every operation
is "compute exactly, then round once".  `Binary64.position?` goes the other way: it places a number
on the extended line, where comparisons are made.
-/

namespace StyleValue

namespace Binary64

/-- The number of units in the number one. -/
def unitsPerOne : Nat := 2 ^ 1074

/-- The first multiple of the unit that lies beyond the finite range, 2¹⁰²⁴. -/
def limit : Nat := 2 ^ 2098

theorem unitsPerOne_eq :
  unitsPerOne = 2 ^ 1074
  := by rw [unitsPerOne]

theorem limit_eq :
  limit = 2 ^ 2098
  := by rw [limit]

-- too large to be counted down to zero, which unfolding them would lead to
attribute [irreducible] unitsPerOne limit

/-- A multiple of the unit is a number of the format when it lies in the finite range and has at
most 53 significant binary digits. -/
def Representable (units : Nat) : Prop :=
  units < limit ∧ ∃ k, 2 ^ k ∣ units ∧ units < 2 ^ (53 + k)

end Binary64

/-- A number of the 64-bit binary interchange format. -/
inductive Binary64 where
  /-- The result of an operation that has no value. -/
  | nan
  /-- A number beyond the finite range, on one of its sides. -/
  | infinity (negative : Bool)
  /-- A whole multiple of the unit, with a sign. -/
  | finite (negative : Bool) (units : Nat) (representable : Binary64.Representable units)
  deriving DecidableEq

/-- A point of the extended line: a whole number of units from zero, or one of the two ends. -/
inductive Position where
  | bottom
  | units (n : Int)
  | top
  deriving DecidableEq

/-- Being to the left on the extended line. -/
def Position.lt : Position → Position → Bool
  | .bottom, .bottom => false
  | .bottom, _ => true
  | .units _, .bottom => false
  | .units m, .units n => m < n
  | .units _, .top => true
  | .top, _ => false

namespace Binary64

/-- The whole number `n` with a sign. -/
def signed (negative : Bool) (n : Nat) : Int :=
  if negative then -n else n

/-- Where a number lies; not-a-number lies nowhere. -/
def position? : Binary64 → Option Position
  | .nan => none
  | .infinity true => some .bottom
  | .infinity false => some .top
  | .finite negative units _ => some (.units (signed negative units))

/-! ### Rounding into the format -/

/-- The binary place of the last digit that 53 significant digits leave to the quotient `q`. -/
def lastPlace (q : Nat) : Nat := q.log2 - 52

/-- The multiple of the unit nearest to `num / den` among those with at most 53 significant binary
digits; an exact half goes to the one whose last digit is even. -/
def nearestUnits (num den : Nat) : Nat :=
  Rounding.halfEven num (den * 2 ^ lastPlace (num / den)) * 2 ^ lastPlace (num / den)

theorem div_lastPlace_lt (num den : Nat) :
  num / (den * 2 ^ lastPlace (num / den)) < 2 ^ 53
  := by
  rw [← Nat.div_div_eq_div_mul, Nat.div_lt_iff_lt_mul (Nat.two_pow_pos _), ← Nat.pow_add]
  apply Nat.lt_of_lt_of_le Nat.lt_log2_self
  apply Nat.pow_le_pow_right (by decide)
  unfold lastPlace
  omega

/-- Rounding leaves at most 53 significant digits. -/
theorem exists_place_nearestUnits (num den : Nat) :
  ∃ k, 2 ^ k ∣ nearestUnits num den ∧ nearestUnits num den < 2 ^ (53 + k)
  := by
  have below := div_lastPlace_lt num den
  have near := Rounding.halfEven_le num (den * 2 ^ lastPlace (num / den))
  unfold nearestUnits
  generalize lastPlace (num / den) = k at *
  generalize Rounding.halfEven num (den * 2 ^ k) = q at *
  have most : q ≤ 2 ^ 53 := by omega
  rcases Nat.lt_or_eq_of_le most with small | carry
  · refine ⟨k, Nat.dvd_mul_left _ _, ?_⟩
    rw [Nat.pow_add]
    exact Nat.mul_lt_mul_of_pos_right small (Nat.two_pow_pos k)
  · refine ⟨k + 1, ?_, ?_⟩
    · rw [carry, ← Nat.pow_add]
      exact Nat.pow_dvd_pow 2 (by omega)
    · rw [carry, ← Nat.pow_add]
      exact Nat.pow_lt_pow_right (by decide) (by omega)

/-- The number nearest to `num / den` units; beyond the finite range it is an infinity. -/
def round (negative : Bool) (num den : Nat) : Binary64 :=
  if inRange : nearestUnits num den < limit then
    .finite negative (nearestUnits num den) ⟨inRange, exists_place_nearestUnits num den⟩
  else
    .infinity negative

theorem round_of_lt {num den : Nat} (negative : Bool) (h : nearestUnits num den < limit) :
  round negative num den
    = .finite negative (nearestUnits num den) ⟨h, exists_place_nearestUnits num den⟩
  := by
  rw [round, dif_pos h]

theorem round_of_le {num den : Nat} (negative : Bool) (h : limit ≤ nearestUnits num den) :
  round negative num den = .infinity negative
  := by
  rw [round, dif_neg (Nat.not_lt.mpr h)]

/-- The number nearest to the quotient `num / den`. -/
def ofQuotient (negative : Bool) (num den : Nat) : Binary64 :=
  round negative (unitsPerOne * num) den

/-- The number nearest to a whole number, when it lies in the finite range. -/
def ofInt? (n : Int) : Option Binary64 :=
  match ofQuotient (n < 0) n.natAbs 1 with
  | .infinity _ => none
  | x => some x

/-- The zero with the given sign. -/
def zero (negative : Bool) : Binary64 := round negative 0 1

/-! ### Parts of a number -/

def isNaN : Binary64 → Bool
  | .nan => true
  | _ => false

def isInfinite : Binary64 → Bool
  | .infinity _ => true
  | _ => false

/-- Both zeros are zero. -/
def isZero : Binary64 → Bool
  | .finite _ 0 _ => true
  | _ => false

/-- The whole number that a number is, if it is one. -/
def toInt? : Binary64 → Option Int
  | .finite negative units _ =>
      if units % unitsPerOne = 0 then some (signed negative (units / unitsPerOne)) else none
  | _ => none

/-! ### The interchange format

A word holds, from its highest bit down, the sign, eleven bits of exponent and 52 bits of
fraction. -/

/-- The word with the given fields. -/
def word (negative : Bool) (exponent fraction : Nat) : UInt64 :=
  UInt64.ofNat ((if negative then 2 ^ 63 else 0) + exponent * 2 ^ 52 + fraction)

/-- The number that a word stands for. -/
def ofBits (word : UInt64) : Binary64 :=
  let negative := 2 ^ 63 ≤ word.toNat
  let exponent := word.toNat / 2 ^ 52 % 2 ^ 11
  let fraction := word.toNat % 2 ^ 52
  if exponent = 2047 then
    if fraction = 0 then .infinity negative else .nan
  else if exponent = 0 then
    round negative fraction 1
  else
    round negative ((2 ^ 52 + fraction) * 2 ^ (exponent - 1)) 1

/-- The word that stands for a number; not-a-number has many, and gets the quiet one without a
payload. -/
def toBits : Binary64 → UInt64
  | .nan => 0x7ff8000000000000
  | .infinity negative => word negative 2047 0
  | .finite negative units _ =>
      if units < 2 ^ 52 then
        word negative 0 units
      else
        word negative (units.log2 - 51) (units / 2 ^ (units.log2 - 52) - 2 ^ 52)

end Binary64

end StyleValue
