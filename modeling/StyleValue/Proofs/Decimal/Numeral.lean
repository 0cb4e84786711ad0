import Mathlib.Algebra.Order.Field.Basic
import Mathlib.Algebra.Order.Ring.Rat
import Mathlib.Data.List.Basic
import Mathlib.Data.List.Induction
import Mathlib.Data.Nat.Cast.Order.Ring
import Mathlib.Tactic.Positivity
import StyleValue.Decimal.Basic

/-!
# Numerals

A `Numeral` is a number written out in full: digits without superfluous zeros, perhaps with a point
among them and a minus before them.  A number has at most one numeral (`Numeral.eq_of_value_eq`).
What `Decimal.plain` writes is the numeral of the decimal's value (`Decimal.value_numeral`), unless
it is a zero with a minus.
-/

namespace StyleValue

/-! ### Lists of digits -/

theorem digitChar_toNat_sub {c : Char} (h : c.isDigit) :
  c.toNat - '0'.toNat < 10 ∧ Nat.digitChar (c.toNat - '0'.toNat) = c
  := by
  have bounds : '0'.toNat ≤ c.toNat ∧ c.toNat < '0'.toNat + 10 := by
    simp only [Char.isDigit, Bool.and_eq_true, decide_eq_true_eq] at h
    exact ⟨h.1, Nat.lt_succ_of_le h.2⟩
  have small : c.toNat - '0'.toNat < 10 := Nat.sub_lt_left_of_lt_add bounds.1 bounds.2
  apply And.intro small
  apply Char.toNat_inj.mp
  rw [Nat.toNat_digitChar_of_lt_ten small]
  apply Nat.add_sub_of_le bounds.1

theorem ofDigitChars_concat (digits : List Char) (c : Char) :
  Nat.ofDigitChars 10 (digits ++ [c]) 0
    = 10 * Nat.ofDigitChars 10 digits 0 + (c.toNat - '0'.toNat)
  := by
  rw [Nat.ofDigitChars_append, Nat.ofDigitChars_cons, Nat.ofDigitChars_nil]

namespace Decimal

/-- The lowest digits of a number, written from the highest of them on. -/
theorem ofDigitChars_reverse_lowDigits (count n : Nat) :
  Nat.ofDigitChars 10 (lowDigits count n).reverse 0 = n % 10 ^ count
  := by
  induction count generalizing n with
  | zero => rw [Nat.pow_zero, Nat.mod_one]; rfl
  | succ count ih =>
      have last : n % 10 < 10 := Nat.mod_lt _ (by decide)
      rw [lowDigits, List.reverse_cons, ofDigitChars_concat, ih, Nat.pow_succ', Nat.mod_mul,
        Nat.add_comm]
      congr 1
      apply Nat.toNat_digitChar_sub_48_of_lt_ten last

/-- The digits at the end are the lowest digits of the number that all the digits stand for. -/
theorem lowDigits_ofDigitChars (front : List Char) {digits : List Char}
    (h : ∀ c ∈ digits, c.isDigit) :
  lowDigits digits.length (Nat.ofDigitChars 10 (front ++ digits) 0) = digits.reverse
  := by
  induction digits using List.reverseRecOn with
  | nil => rfl
  | append_singleton digits c ih =>
      rw [List.forall_mem_append, List.forall_mem_singleton] at h
      obtain ⟨small, same⟩ := digitChar_toNat_sub h.2
      rw [← List.append_assoc, ofDigitChars_concat, List.length_append, List.length_singleton,
        lowDigits, List.reverse_append, Nat.mul_add_mod, Nat.mod_eq_of_lt small, same,
        Nat.mul_add_div (by decide), Nat.div_eq_of_lt small, Nat.add_zero, ih h.1]
      rfl

theorem length_lowDigits (count n : Nat) :
  (lowDigits count n).length = count
  := by
  induction count generalizing n with
  | zero => rfl
  | succ count ih => rw [lowDigits, List.length_cons, ih]

theorem ofDigitChars_lt {digits : List Char} (h : ∀ c ∈ digits, c.isDigit) :
  Nat.ofDigitChars 10 digits 0 < 10 ^ digits.length
  := by
  have value := ofDigitChars_reverse_lowDigits digits.length (Nat.ofDigitChars 10 digits 0)
  have last := lowDigits_ofDigitChars [] h
  rw [List.nil_append] at last
  rw [last, List.reverse_reverse] at value
  rw [value]
  apply Nat.mod_lt _ (Nat.pow_pos (by decide))

/-- Digits without a superfluous zero before them are the digits of the number that they stand
for. -/
theorem toDigits_ofDigitChars {digits : List Char} (h : ∀ c ∈ digits, c.isDigit)
    (nonempty : digits ≠ []) (leading : digits.head? = some '0' → digits = ['0']) :
  Nat.toDigits 10 (Nat.ofDigitChars 10 digits 0) = digits
  := by
  induction digits using List.reverseRecOn with
  | nil => exact absurd rfl nonempty
  | append_singleton digits c ih =>
      rw [List.forall_mem_append, List.forall_mem_singleton] at h
      obtain ⟨small, same⟩ := digitChar_toNat_sub h.2
      rw [ofDigitChars_concat]
      rcases eq_or_ne digits [] with rfl | more
      · rw [Nat.ofDigitChars_nil, Nat.mul_zero, Nat.zero_add, Nat.toDigits_of_lt_base small, same]
        rfl
      · have first : digits.head? ≠ some '0' := by
          intro zero
          have short := leading (by rw [List.head?_append, zero]; rfl)
          simp [List.append_eq_cons_iff, more] at short
        have rest := ih h.1 more fun zero => absurd zero first
        have positive : Nat.ofDigitChars 10 digits 0 ≠ 0 := by
          intro zero
          rw [zero, Nat.toDigits_zero] at rest
          rw [← rest] at first
          exact first rfl
        rw [Nat.toDigits_of_base_le (by decide) (by omega), Nat.mul_add_div (by decide),
          Nat.div_eq_of_lt small, Nat.add_zero, rest, Nat.mul_add_mod, Nat.mod_eq_of_lt small, same]

end Decimal

/-! ### Numerals -/

/-- A canonical plain numeral: digits with a point after some of them and perhaps a minus before
them, and no zeros that could be left out. -/
@[ext]
structure Numeral where
  negative : Bool
  /-- The digits before the point. -/
  whole : List Char
  /-- The digits after the point; there is no point if there are none. -/
  fraction : List Char
  whole_digits : ∀ c ∈ whole, c.isDigit
  fraction_digits : ∀ c ∈ fraction, c.isDigit
  nonempty : whole ≠ []
  leading : whole.head? = some '0' → whole = ['0']
  trailing : fraction.getLast? ≠ some '0'
  /-- Zero has no minus. -/
  unsigned : whole = ['0'] → fraction = [] → negative = false

namespace Numeral

def text (n : Numeral) : String :=
  String.ofList <|
    (if n.negative then ['-'] else []) ++ n.whole
      ++ (if n.fraction = [] then [] else '.' :: n.fraction)

/-- The whole number that the digits stand for, without the point. -/
def magnitude (n : Numeral) : Nat := Nat.ofDigitChars 10 (n.whole ++ n.fraction) 0

def value (n : Numeral) : Rat :=
  (if n.negative then -1 else 1) * n.magnitude / 10 ^ n.fraction.length

theorem magnitude_eq (n : Numeral) :
  n.magnitude = 10 ^ n.fraction.length * Nat.ofDigitChars 10 n.whole 0
    + Nat.ofDigitChars 10 n.fraction 0
  := by
  rw [magnitude, Nat.ofDigitChars_append, Nat.ofDigitChars_eq_ofDigitChars_zero]

theorem whole_eq (n : Numeral) :
  n.whole = Nat.toDigits 10 (n.magnitude / 10 ^ n.fraction.length)
  := by
  have small := Decimal.ofDigitChars_lt n.fraction_digits
  rw [magnitude_eq, Nat.mul_add_div (Nat.pow_pos (by decide)), Nat.div_eq_of_lt small, Nat.add_zero,
    Decimal.toDigits_ofDigitChars n.whole_digits n.nonempty n.leading]

theorem fraction_eq (n : Numeral) :
  n.fraction = (Decimal.lowDigits n.fraction.length n.magnitude).reverse
  := by
  rw [magnitude, Decimal.lowDigits_ofDigitChars n.whole n.fraction_digits, List.reverse_reverse]

theorem not_ten_dvd_magnitude {n : Numeral} (h : n.fraction ≠ []) :
  ¬ 10 ∣ n.magnitude
  := by
  obtain ⟨front, c, split⟩ := (List.eq_nil_or_concat' n.fraction).resolve_left h
  have digits := n.fraction_digits
  have trailing := n.trailing
  rw [split, List.forall_mem_append, List.forall_mem_singleton] at digits
  rw [split, List.getLast?_concat] at trailing
  obtain ⟨small, same⟩ := digitChar_toNat_sub digits.2
  rw [magnitude, split, ← List.append_assoc, ofDigitChars_concat]
  intro divides
  have zero : c.toNat - '0'.toNat = 0 := by omega
  rw [zero] at same
  rw [← same] at trailing
  exact trailing rfl

theorem fraction_length_le {m n : Numeral}
    (h : m.magnitude * 10 ^ n.fraction.length = n.magnitude * 10 ^ m.fraction.length) :
  n.fraction.length ≤ m.fraction.length
  := by
  by_contra longer
  rw [Nat.not_le] at longer
  obtain ⟨k, split⟩ := Nat.exists_eq_add_of_lt longer
  apply not_ten_dvd_magnitude (n := n)
  · rintro none
    rw [none] at longer
    exact Nat.not_lt_zero _ longer
  · use m.magnitude * 10 ^ k
    apply Nat.eq_of_mul_eq_mul_right (Nat.pow_pos (Nat.zero_lt_succ 9) : 0 < 10 ^ m.fraction.length)
    rw [← h, split, Nat.pow_succ, Nat.pow_add]
    ac_rfl

theorem abs_value (n : Numeral) :
  |n.value| = n.magnitude / 10 ^ n.fraction.length
  := by
  have positive : (0 : Rat) ≤ n.magnitude / 10 ^ n.fraction.length := by positivity
  rw [value, mul_div_assoc, abs_mul, abs_of_nonneg positive]
  split <;> simp

/-- Zero is written as a single digit. -/
theorem eq_zero_of_magnitude {n : Numeral} (h : n.magnitude = 0) :
  n.whole = ['0'] ∧ n.fraction = []
  := by
  apply And.intro
  · rw [whole_eq, h, Nat.zero_div, Nat.toDigits_zero]
  · by_contra some
    apply not_ten_dvd_magnitude some
    rw [h]
    apply Nat.dvd_zero

theorem magnitude_ne_zero {n : Numeral} (h : n.negative) :
  n.magnitude ≠ 0
  := by
  intro zero
  obtain ⟨whole, none⟩ := eq_zero_of_magnitude zero
  rw [n.unsigned whole none] at h
  contradiction

/-- A minus stands before the numerals of negative numbers. -/
theorem negative_iff (n : Numeral) :
  n.negative ↔ n.value < 0
  := by
  rw [value, mul_div_assoc]
  constructor
  · intro negative
    have positive := Nat.pos_of_ne_zero (magnitude_ne_zero negative)
    rw [if_pos negative, neg_one_mul, neg_lt_zero]
    positivity
  · contrapose!
    intro unsigned
    rw [if_neg unsigned, one_mul]
    positivity

/-- Every number has at most one numeral. -/
theorem eq_of_value_eq {m n : Numeral} (h : m.value = n.value) :
  m = n
  := by
  have scaled : m.magnitude * 10 ^ n.fraction.length = n.magnitude * 10 ^ m.fraction.length := by
    have ratio := congrArg (|·|) h
    simp only [abs_value] at ratio
    rw [div_eq_div_iff (by positivity) (by positivity)] at ratio
    exact_mod_cast ratio
  have places : m.fraction.length = n.fraction.length :=
    Nat.le_antisymm (fraction_length_le scaled.symm) (fraction_length_le scaled)
  have magnitude : m.magnitude = n.magnitude := by
    rw [places] at scaled
    exact Nat.eq_of_mul_eq_mul_right (Nat.pow_pos (Nat.zero_lt_succ 9)) scaled
  apply Numeral.ext
  · rw [Bool.eq_iff_iff, negative_iff, negative_iff, h]
  · rw [whole_eq, whole_eq n, magnitude, places]
  · rw [fraction_eq, fraction_eq n, magnitude, places]

theorem text_of_zero {n : Numeral} (h : n.value = 0) :
  n.text = "0"
  := by
  have positive : n.negative = false := by
    rw [Bool.eq_false_iff, ne_eq, negative_iff, h]
    exact lt_irrefl 0
  have zero : n.magnitude = 0 := by
    have ratio := abs_value n
    rw [h, abs_zero, eq_comm, div_eq_zero_iff, Nat.cast_eq_zero] at ratio
    apply ratio.resolve_right
    positivity
  obtain ⟨whole, none⟩ := eq_zero_of_magnitude zero
  rw [text, positive, whole, none]
  rfl

end Numeral

/-! ### Decimals as numerals -/

namespace Decimal

theorem isDigit_of_mem_lowDigits {count n : Nat} {c : Char} (h : c ∈ lowDigits count n) :
  c.isDigit
  := by
  induction count generalizing n with
  | zero => cases h
  | succ count ih =>
      rw [lowDigits, List.mem_cons] at h
      rcases h with rfl | rest
      · rw [Nat.isDigit_digitChar, decide_eq_true_eq]
        apply Nat.mod_lt _ (by decide)
      · apply ih rest

/-- The only zero that a number starts with is that of zero itself. -/
theorem toDigits_of_head?_eq_zero {n : Nat} (h : (Nat.toDigits 10 n).head? = some '0') :
  Nat.toDigits 10 n = ['0']
  := by
  induction n using Nat.strongRecOn with
  | ind n ih =>
      rcases Nat.lt_or_ge n 10 with small | large
      · rw [Nat.toDigits_of_lt_base small] at h ⊢
        rw [Option.some.inj h]
      · rw [Nat.toDigits_of_base_le (by decide) large, List.head?_append,
          List.head?_eq_some_head Nat.toDigits_ne_nil, Option.some_or,
          ← List.head?_eq_some_head Nat.toDigits_ne_nil] at h
        have zero := ih (n / 10) (Nat.div_lt_self (by omega) (by decide)) h
        have value : Nat.ofDigitChars 10 (Nat.toDigits 10 (n / 10)) 0 = n / 10 :=
          Nat.ofDigitChars_ten_toDigits
        rw [zero] at value
        have none : 0 = n / 10 := value
        omega

/-- The digits of a fraction are followed by the zeros that are not written. -/
theorem exists_fraction_append (places n : Nat) :
  ∃ k, (fraction places n).length + k = places
    ∧ fraction places n ++ List.replicate k '0' = (lowDigits places n).reverse
  := by
  have all := @List.all_takeWhile _ (· = '0') (lowDigits places n)
  have split := @List.takeWhile_append_dropWhile _ (· = '0') (lowDigits places n)
  have zeros := List.eq_replicate_of_mem fun c hc =>
    of_decide_eq_true (List.all_eq_true.mp all c hc)
  rw [zeros] at split
  generalize ((lowDigits places n).takeWhile (· = '0')).length = k at split
  have parts : fraction places n ++ List.replicate k '0' = (lowDigits places n).reverse := by
    rw [fraction, ← split, List.reverse_append, List.reverse_replicate, split]
  have length := congrArg List.length parts
  rw [List.length_append, List.length_replicate, List.length_reverse, length_lowDigits] at length
  exact ⟨k, length, parts⟩

theorem getLast?_fraction (places n : Nat) :
  (fraction places n).getLast? ≠ some '0'
  := by
  intro zero
  have first := List.head?_dropWhile_not (· = '0') (lowDigits places n)
  rw [fraction, List.getLast?_reverse] at zero
  rw [zero] at first
  contradiction

theorem length_fraction_le (places n : Nat) :
  (fraction places n).length ≤ places
  := by
  obtain ⟨k, length, -⟩ := exists_fraction_append places n
  apply Nat.le.intro length

theorem isDigit_of_mem_fraction {places n : Nat} {c : Char} (h : c ∈ fraction places n) :
  c.isDigit
  := by
  obtain ⟨k, -, zeros⟩ := exists_fraction_append places n
  have written := List.mem_append_left (List.replicate k '0') h
  rw [zeros, List.mem_reverse] at written
  apply isDigit_of_mem_lowDigits written

/-- The number without its point, in units of the last of its places. -/
def scaled (d : Decimal) : Nat := d.digits * 10 ^ d.exponent.toNat

/-- How many digits of the number stand after the point. -/
def places (d : Decimal) : Nat := (-d.exponent).toNat

def value (d : Decimal) : Rat := (if d.negative then -1 else 1) * d.digits * 10 ^ d.exponent

/-- A power of ten as a quotient, one side of which is one. -/
theorem ten_zpow (p : Int) :
  (10 : Rat) ^ p = 10 ^ p.toNat / 10 ^ (-p).toNat
  := by
  rcases Int.le_total 0 p with h | h
  · obtain ⟨k, rfl⟩ := Int.eq_ofNat_of_zero_le h
    simp
  · obtain ⟨k, rfl⟩ := Int.exists_eq_neg_ofNat h
    simp [div_eq_mul_inv]

theorem digits_mul_zpow (d : Decimal) :
  (d.digits : Rat) * 10 ^ d.exponent = d.scaled / 10 ^ d.places
  := by
  rw [ten_zpow, ← mul_div_assoc, scaled, places]
  push_cast
  rfl

theorem abs_value (d : Decimal) :
  |d.value| = d.digits * 10 ^ d.exponent
  := by
  have positive : (0 : Rat) ≤ d.digits * 10 ^ d.exponent := by
    rw [digits_mul_zpow]
    positivity
  rw [value, mul_assoc, abs_mul, abs_of_nonneg positive]
  split <;> simp

/-- The written digits stand for the number up to the zeros that are not written. -/
theorem exists_scaled_eq (d : Decimal) :
  ∃ k, (fraction d.places d.scaled).length + k = d.places
    ∧ 10 ^ k * Nat.ofDigitChars 10
        (Nat.toDigits 10 (d.scaled / 10 ^ d.places) ++ fraction d.places d.scaled) 0
      = d.scaled
  := by
  obtain ⟨k, length, zeros⟩ := exists_fraction_append d.places d.scaled
  use k, length
  rw [← Nat.ofDigitChars_replicate_zero, ← Nat.ofDigitChars_append, List.append_assoc, zeros,
    Nat.ofDigitChars_append, Nat.ofDigitChars_ten_toDigits, Nat.ofDigitChars_eq_ofDigitChars_zero,
    List.length_reverse, length_lowDigits, ofDigitChars_reverse_lowDigits, Nat.div_add_mod]

/-- The decimal as a numeral; zero has no minus. -/
def numeral (d : Decimal) (h : d.negative → d.digits ≠ 0) : Numeral where
  negative := d.negative
  whole := Nat.toDigits 10 (d.scaled / 10 ^ d.places)
  fraction := fraction d.places d.scaled
  whole_digits c := Nat.isDigit_of_mem_toDigits (by decide) (by decide)
  fraction_digits c := isDigit_of_mem_fraction
  nonempty := Nat.toDigits_ne_nil
  leading := toDigits_of_head?_eq_zero
  trailing := getLast?_fraction _ _
  unsigned whole none := by
    obtain ⟨k, -, zero⟩ := exists_scaled_eq d
    rw [whole, none, eq_comm] at zero
    have power : 10 ^ d.exponent.toNat ≠ 0 := Nat.ne_of_gt (Nat.pow_pos (by decide))
    have digits : d.digits = 0 := (Nat.mul_eq_zero.mp zero).resolve_right power
    rw [← Bool.not_eq_true]
    exact fun negative => h negative digits

theorem text_numeral (d : Decimal) (h : d.negative → d.digits ≠ 0) :
  (d.numeral h).text = d.plain
  := rfl

theorem value_numeral (d : Decimal) (h : d.negative → d.digits ≠ 0) :
  (d.numeral h).value = d.value
  := by
  obtain ⟨k, (length : (d.numeral h).fraction.length + k = d.places),
    (magnitude : 10 ^ k * (d.numeral h).magnitude = d.scaled)⟩ := exists_scaled_eq d
  have scaled : (d.numeral h).magnitude * 10 ^ d.places
      = d.scaled * 10 ^ (d.numeral h).fraction.length := by
    rw [← length, ← magnitude, Nat.pow_add]
    ac_rfl
  have ratio : ((d.numeral h).magnitude : Rat) / 10 ^ (d.numeral h).fraction.length
      = d.scaled / 10 ^ d.places := by
    rw [div_eq_div_iff (by positivity) (by positivity)]
    exact_mod_cast scaled
  rw [Numeral.value, value, mul_assoc, digits_mul_zpow, mul_div_assoc, ratio]
  rfl

end Decimal

end StyleValue
