import StyleValue.Number.Basic

/-!
# Steps of one

`Direction.walk?` lists the numbers reached from a number by steps of one, up or down, as long as
they have not reached an end.  A walk ends because every step brings it nearer to the end.  A step
that does not, from or to an infinity or between floating-point numbers more than one apart, would
be repeated for ever, and the walk is *endless*.
-/

namespace StyleValue

/-- One as a floating-point number. -/
def Binary64.one : Binary64 := ofQuotient false 1 1

/-- The two ways along the line. -/
inductive Direction where
  | up
  | down
  deriving DecidableEq

namespace Direction

/-- The number one step further. -/
def next : Direction → Number → Number
  | up, .int n => .int (n + 1)
  | up, .float x => .float (x.add .one)
  | down, .int n => .int (n - 1)
  | down, .float x => .float (x.sub .one)

/-- The first number comes before the second on the way. -/
def isBefore : Direction → Number → Number → Bool
  | up, a, b => a.lt b
  | down, a, b => b.lt a

/-- How many units of the way lie between two numbers; none do when the second is not ahead, or one
of them is not finite. -/
def gap (d : Direction) (a b : Number) : Nat :=
  match d, a.position?, b.position? with
  | up, some (.units m), some (.units n) => (n - m).toNat
  | down, some (.units m), some (.units n) => (m - n).toNat
  | _, _, _ => 0

/-- The numbers from `value` on that come before `stop`, or nothing for an endless walk. -/
def walk? (d : Direction) (value stop : Number) : Option (List Number) :=
  if d.isBefore value stop then
    if d.gap (d.next value) stop < d.gap value stop then
      (walk? d (d.next value) stop).map (value :: ·)
    else
      none
  else
    some []
termination_by d.gap value stop

/-- The way from one number to another; up if they are equal. -/
def between (a b : Number) : Direction := if a.le b then up else down

end Direction

end StyleValue
