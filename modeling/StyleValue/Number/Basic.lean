import StyleValue.Binary64.Arithmetic

/-!
# Numbers

A number of the expression language is a whole number of any size or a floating-point number.
Arithmetic on two whole numbers is exact; as soon as one operand is a floating-point number, the
other one is rounded to the format first, which fails when it is too large.  Comparison never
rounds: it takes place on the extended line, on which `Number.position?` puts a number of either
sort.
-/

namespace StyleValue

/-- A whole number of any size, or a floating-point number. -/
inductive Number where
  | int (n : Int)
  | float (x : Binary64)
  deriving DecidableEq

/-- Why an operation on numbers has no result. -/
inductive ArithmeticError where
  /-- A whole number, or the quotient of two, lies beyond the floating-point range. -/
  | overflow
  /-- A division has no value: the divisor is zero, or the remainder of an infinity is asked for. -/
  | zeroDivisor
  deriving DecidableEq

namespace Number

/-! ### Comparison -/

/-- Where a number lies on the extended line; not-a-number lies nowhere. -/
def position? : Number → Option Position
  | .int n => some (.units (n * Binary64.unitsPerOne))
  | .float x => x.position?

/-- Two numbers are equal when they lie at the same place; not-a-number equals nothing. -/
def equals (a b : Number) : Bool :=
  match a.position?, b.position? with
  | some p, some q => p = q
  | _, _ => false

def lt (a b : Number) : Bool :=
  match a.position?, b.position? with
  | some p, some q => p.lt q
  | _, _ => false

def le (a b : Number) : Bool := a.lt b || a.equals b

def isZero : Number → Bool
  | .int n => n = 0
  | .float x => x.isZero

def isNaN : Number → Bool
  | .int _ => false
  | .float x => x.isNaN

def isInfinite : Number → Bool
  | .int _ => false
  | .float x => x.isInfinite

/-! ### Arithmetic -/

/-- A number rounded to the floating-point format. -/
def toBinary64 : Number → Except ArithmeticError Binary64
  | .int n =>
      match Binary64.ofInt? n with
      | some x => .ok x
      | none => .error .overflow
  | .float x => .ok x

/-- An operation given by its two sorts: exact on whole numbers, rounded on all others. -/
def combine (onInt : Int → Int → Int) (onFloat : Binary64 → Binary64 → Binary64) :
    Number → Number → Except ArithmeticError Number
  | .int m, .int n => .ok (.int (onInt m n))
  | a, b => do
      let x ← a.toBinary64
      let y ← b.toBinary64
      return .float (onFloat x y)

def add : Number → Number → Except ArithmeticError Number := combine (· + ·) Binary64.add

def sub : Number → Number → Except ArithmeticError Number := combine (· - ·) Binary64.sub

def mul : Number → Number → Except ArithmeticError Number := combine (· * ·) Binary64.mul

/-- The quotient, always a floating-point number.  That of two whole numbers is rounded once, from
its exact value. -/
def div : Number → Number → Except ArithmeticError Number
  | .int m, .int n =>
      if n = 0 then
        .error .zeroDivisor
      else
        match Binary64.ofQuotient ((m < 0) != (n < 0)) m.natAbs n.natAbs with
        | .infinity _ => .error .overflow
        | x => .ok (.float x)
  | a, b => do
      let x ← a.toBinary64
      let y ← b.toBinary64
      if y.isZero then .error .zeroDivisor else .ok (.float (x.div y))

/-- The remainder of two whole numbers: that of their magnitudes, with the sign of the dividend. -/
def intRem (m n : Int) : Int :=
  let r : Nat := m.natAbs % n.natAbs
  if m < 0 then -r else r

/-- The remainder of two floating-point numbers, where it has a value. -/
def floatRem (x y : Binary64) : Except ArithmeticError Number :=
  match x.rem? y with
  | some z => .ok (.float z)
  | none => .error .zeroDivisor

/-- The remainder of the quotient truncated towards zero.  An infinite dividend leaves no number,
whatever the divisor, and neither does a divisor that is none. -/
def rem : Number → Number → Except ArithmeticError Number
  | .int m, .int n => if n = 0 then .error .zeroDivisor else .ok (.int (intRem m n))
  | a, b => do
      let x ← a.toBinary64
      if x.isInfinite then
        return .float .nan
      let y ← b.toBinary64
      if y.isNaN then
        return .float .nan
      floatRem x y

end Number

end StyleValue
