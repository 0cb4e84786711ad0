import StyleValue.Power

/-!
# Decimals and how they are written

A `Decimal` is a whole number of tenths, hundredths, tens, …: digits with a decimal exponent and a
sign.  `Decimal.plain` writes it out in full with the fewest digits; `Decimal.scientific` writes one
digit before the point and an exponent of ten.  `Decimal.pointPosition` says where the point stands
relative to the first digit.
-/

namespace StyleValue

/-- The number `± digits * 10 ^ exponent`. -/
structure Decimal where
  negative : Bool
  digits : Nat
  exponent : Int
  deriving DecidableEq

namespace Decimal

def ofInt (n : Int) : Decimal := ⟨n < 0, n.natAbs, 0⟩

/-- The `count` lowest decimal digits of `n`, the lowest one first. -/
def lowDigits : (count n : Nat) → List Char
  | 0, _ => []
  | count + 1, n => Nat.digitChar (n % 10) :: lowDigits count (n / 10)

/-- The digits after the point of `n / 10 ^ places`, without the zeros at their end. -/
def fraction (places n : Nat) : List Char :=
  ((lowDigits places n).dropWhile (· = '0')).reverse

/-- The minus of a negative number. -/
def sign (d : Decimal) : List Char :=
  if d.negative then ['-'] else []

/-- The decimal written out in full, without superfluous zeros and without an exponent. -/
def plain (d : Decimal) : String :=
  let scaled := d.digits * 10 ^ d.exponent.toNat
  let places := (-d.exponent).toNat
  let after := fraction places scaled
  String.ofList <|
    d.sign ++ Nat.toDigits 10 (scaled / 10 ^ places)
      ++ (if after = [] then [] else '.' :: after)

/-- A whole number is written with digits and a minus. -/
theorem mem_plain_ofInt {n : Int} {c : Char} (h : c ∈ (ofInt n).plain.toList) :
  c = '-' ∨ c.isDigit
  := by
  have isMinus (negative : Bool) (mem : c ∈ if negative then ['-'] else []) : c = '-' := by
    cases negative with
    | true => exact List.mem_singleton.mp mem
    | false => cases mem
  simp only [plain, ofInt, sign, fraction, String.toList_ofList, List.mem_append] at h
  rcases h with (minus | digit) | ⟨⟨⟩⟩
  · left
    exact isMinus _ minus
  · right
    exact Nat.isDigit_of_mem_toDigits (by decide) (by decide) digit

/-- How many places the point stands to the right of the place before the first digit. -/
def pointPosition (d : Decimal) : Int :=
  (Nat.toDigits 10 d.digits).length + d.exponent

/-- Digits with a point after the first of them, unless it is the only one. -/
def significand : List Char → List Char
  | first :: second :: rest => first :: '.' :: second :: rest
  | digits => digits

/-- The decimal with one digit before the point and an exponent of ten; the exponent has a sign and
at least two digits. -/
def scientific (d : Decimal) : String :=
  let exponent := d.pointPosition - 1
  let magnitude := Nat.toDigits 10 exponent.natAbs
  String.ofList <|
    d.sign ++ significand (Nat.toDigits 10 d.digits)
      ++ 'e' :: (if exponent < 0 then '-' else '+') :: (if magnitude.length < 2 then ['0'] else [])
      ++ magnitude

end Decimal

end StyleValue
