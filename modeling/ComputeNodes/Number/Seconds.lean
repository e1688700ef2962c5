/-
Lengths of time as they are configured.

A length of time is given as a whole number of seconds or as a double, and keeps its kind: errors
hand it back as it was given.  Comparing a whole one with a double is exact, and turning it into a
double fails when it is too large for one.
-/
import ComputeNodes.Number.Written

namespace ComputeNodes

/-- A length of time in seconds, or a time out of reach such as infinity. -/
inductive Seconds where
  | whole (n : Int)
  | double (x : Float)
  deriving Repr

namespace Seconds

/-- The length as a double; `none` when it is too large for one. -/
def toDouble? : Seconds → Option Float
  | .whole n => Binary.ofInt? n
  | .double x => some x

/-- Whether a length is zero or less; not-a-number is not. -/
def isZeroOrLess : Seconds → Bool
  | .whole n => n ≤ 0
  | .double x => x ≤ 0.0

/-- The length, or zero seconds where it is negative. -/
def atLeastZero : Seconds → Seconds
  | .whole n => if n < 0 then .double 0.0 else .whole n
  | .double x => if x < 0.0 then .double 0.0 else .double x

/-- Whether a length is at most so many seconds. -/
def isAtMost : Seconds → Float → Bool
  | .whole n, elapsed => Binary.intLe n elapsed
  | .double x, elapsed => x ≤ elapsed

/-- The length with one place behind the point; `none` when it is too large for a double. -/
def tenths? (s : Seconds) : Option String :=
  s.toDouble?.map fun x => (Binary.ofFloat x).fixed 1

end Seconds

end ComputeNodes
