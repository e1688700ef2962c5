/-
Values that count as the same.

Numbers count as the same when they amount to the same, be they truth values, whole numbers or
doubles; everything else counts as the same only when it is.  Lists, tables and records can be
changed from within, so they are no keys: nothing is told apart by them.
-/
import ComputeNodes.Value

namespace ComputeNodes.Value

/-- Whether a value can be a key. -/
def canBeKey : Value → Bool
  | .list _ => false
  | .table _ => false
  | .record _ => false
  | _ => true

/-- The whole number that a number amounts to. -/
def amount? : Value → Option Int
  | .bool b => some (if b then 1 else 0)
  | .int n => some n
  | .float x => (Binary.truncate? x).filter fun n => Binary.ofInt? n == some x
  | _ => none

/-- Whether two values count as the same. -/
def alike (a b : Value) : Bool :=
  match a.amount?, b.amount? with
  | some m, some n => m == n
  | none, none =>
    match a, b with
    | .float x, .float y => x == y
    | a, b => a == b
  | _, _ => false

end ComputeNodes.Value
