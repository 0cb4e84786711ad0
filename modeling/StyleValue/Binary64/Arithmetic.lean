import StyleValue.Binary64.Basic

/-!
# Arithmetic of binary floating-point numbers

Each operation computes the exact result, in units, and rounds it once.  An operation without a
value gives not-a-number.  A zero that is exact takes its sign from the operands: of a sum when both
agree on it, of a product, quotient or remainder always.
-/

namespace StyleValue.Binary64

/-- The number on the other side of zero. -/
def neg : Binary64 → Binary64
  | .nan => .nan
  | .infinity s => .infinity !s
  | .finite s u h => .finite (!s) u h

def add : Binary64 → Binary64 → Binary64
  | .nan, _ => .nan
  | _, .nan => .nan
  | .infinity s, .infinity t => if s = t then .infinity s else .nan
  | .infinity s, .finite .. => .infinity s
  | .finite .., .infinity t => .infinity t
  | .finite s u _, .finite t v _ =>
      let sum := signed s u + signed t v
      if sum = 0 then zero (s && t) else round (sum < 0) sum.natAbs 1

def sub (x y : Binary64) : Binary64 := add x y.neg

def mul : Binary64 → Binary64 → Binary64
  | .nan, _ => .nan
  | _, .nan => .nan
  | .infinity s, .infinity t => .infinity (s != t)
  | .infinity s, .finite t v _ => if v = 0 then .nan else .infinity (s != t)
  | .finite s u _, .infinity t => if u = 0 then .nan else .infinity (s != t)
  | .finite s u _, .finite t v _ => round (s != t) (u * v) unitsPerOne

def div : Binary64 → Binary64 → Binary64
  | .nan, _ => .nan
  | _, .nan => .nan
  | .infinity _, .infinity _ => .nan
  | .infinity s, .finite t _ _ => .infinity (s != t)
  | .finite s _ _, .infinity t => zero (s != t)
  | .finite s u _, .finite t v _ =>
      if v = 0 then
        if u = 0 then .nan else .infinity (s != t)
      else
        ofQuotient (s != t) u v

/-- The remainder of the quotient truncated towards zero; it has the sign of the dividend. -/
def rem : Binary64 → Binary64 → Binary64
  | .nan, _ => .nan
  | _, .nan => .nan
  | .infinity _, _ => .nan
  | .finite s u h, .infinity _ => .finite s u h
  | .finite s u _, .finite _ v _ => if v = 0 then .nan else round s (u % v) 1

/-- The remainder where it has a value.  It has none when the dividend is infinite or the divisor
zero, unless not-a-number is among the operands. -/
def rem? (x y : Binary64) : Option Binary64 :=
  if (x.isInfinite && !y.isNaN) || (y.isZero && !x.isNaN) then none else some (x.rem y)

end StyleValue.Binary64
