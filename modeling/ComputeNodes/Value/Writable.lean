/-
Values that can be written out.

A value is written with all that it holds, so one number without a numeral is enough to keep it from
being written.
-/
import ComputeNodes.Error.Fault
import ComputeNodes.Value

namespace ComputeNodes.Value

mutual

/-- Whether a value can be written out. -/
def isWritable : Value → Bool
  | .int n => Numeral.hasNumeral n
  | .list items => areWritable items
  | .table entries => haveWritable entries
  | .record features => haveWritable features
  | _ => true

def areWritable : List Value → Bool
  | [] => true
  | item :: rest => isWritable item && areWritable rest

def haveWritable : List (String × Value) → Bool
  | [] => true
  | (_, value) :: rest => isWritable value && haveWritable rest

end

/-- A value that is to be written out. -/
def writable (v : Value) : Except WholeFault Value :=
  if v.isWritable then .ok v else .error .noNumeral

end ComputeNodes.Value
