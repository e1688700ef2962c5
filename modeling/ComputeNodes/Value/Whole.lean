/-
Whole numbers in values.

Loosely typed replies give a whole number as a number, as a truth value or as a numeral.
-/
import ComputeNodes.Error.Fault
import ComputeNodes.Value

namespace ComputeNodes

/-- The whole number that a value holds; the part of a double behind its point is dropped. -/
def Value.whole : Value → Except WholeFault Int
  | .bool b => .ok (if b then 1 else 0)
  | .int n => .ok n
  | .float x =>
    match Binary.truncate? x with
    | some n => .ok n
    | none => .error (if x.isNaN then .notANumber else .infinite)
  | .text s =>
    (Numeral.read s.toList).mapError fun
      | .malformed => .notNumeral s
      | .tooManyDigits count => .tooManyDigits count
  | value => .error (.notNumber value.typeName)

end ComputeNodes
