/-
What can be handed to a constructor.

A constructor has arguments that it needs, in order, and may take some more behind them.  Arguments
are handed over by position or by name.  Positions are counted with the thing under construction as
the first one.
-/

namespace ComputeNodes

/-- Why arguments cannot be handed over. -/
inductive CallFault where
  | missing (callee : String) (names : List String)
  | tooMany (callee : String) (least most given : Nat)
  | unexpected (callee name : String)
  | twice (callee name : String)
  deriving DecidableEq, Repr

namespace CallFault

def quoted (name : String) : String := "'" ++ name ++ "'"

/-- Names in a row, the last one after an "and". -/
def enumeration : List String → String
  | [] => ""
  | [a] => quoted a
  | [a, b] => quoted a ++ " and " ++ quoted b
  | names =>
    ", ".intercalate (names.dropLast.map quoted) ++ ", and " ++ quoted (names.getLastD "")

def text : CallFault → String
  | .missing callee names =>
    callee ++ "() missing " ++ toString names.length ++ " required positional argument"
      ++ (if names.length = 1 then "" else "s") ++ ": " ++ enumeration names
  | .tooMany callee least most given =>
    let range := if least = most then toString most
      else "from " ++ toString least ++ " to " ++ toString most
    callee ++ "() takes " ++ range ++ " positional arguments but " ++ toString given
      ++ " were given"
  | .unexpected callee name =>
    callee ++ "() got an unexpected keyword argument " ++ quoted name
  | .twice callee name => callee ++ "() got multiple values for argument " ++ quoted name

end CallFault

/-- What a constructor takes by position. -/
structure Signature where
  callee : String
  required : List String
  /-- The number of arguments that may be left out. -/
  optional : Nat := 0
  deriving Repr

/-- What is wrong with so many arguments. -/
def Signature.fault? (s : Signature) (given : Nat) : Option CallFault :=
  let least := s.required.length
  let most := least + s.optional
  if given < least then some (.missing s.callee (s.required.drop given))
  else if most < given then some (.tooMany s.callee (least + 1) (most + 1) (given + 1))
  else none

end ComputeNodes
