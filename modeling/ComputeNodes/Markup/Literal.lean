/-
Values that are written out.

What an expression means is asked only after it has been read: a value that is written out is fine,
and a set or a table must hold nothing in it that cannot be a key.
-/
import ComputeNodes.Markup.Grammar

namespace ComputeNodes.Markup

/-- Why an expression is no value that is written out. -/
inductive LiteralFault where
  | expression (fault : ExpressionFault)
  /-- It is more than a value. -/
  | notLiteral
  /-- It takes entries over from another table. -/
  | borrowed
  | noKey (typeName : String)
  deriving DecidableEq, Repr

/-- Whether no expression was read. -/
def LiteralFault.isSyntax : LiteralFault → Bool
  | .expression fault => !fault.isOfCharacters
  | _ => false

def LiteralFault.text : LiteralFault → String
  | .expression fault => fault.text
  | .notLiteral => "malformed node or string"
  | .borrowed => "malformed node or string: None"
  | .noKey typeName => "unhashable type: '" ++ typeName ++ "'"

/-- What a value is made of, as far as it matters for keys. -/
inductive Literal where
  | plain
  | tuple (items : List Literal)
  | set
  | table
  deriving Inhabited, Repr

namespace Literal

mutual

/-- Why a value can be no key. -/
def fault? : Literal → Option LiteralFault
  | .plain => none
  | .tuple items => firstFault? items
  | .set => some (.noKey "set")
  | .table => some (.noKey "dict")

def firstFault? : List Literal → Option LiteralFault
  | [] => none
  | item :: rest => (fault? item).or (firstFault? rest)

end

/-- Checks that a value can be a key. -/
def checkKey (value : Literal) : Except LiteralFault Unit :=
  match value.fault? with
  | some fault => .error fault
  | none => .ok ()

/-- Whether an expression is a number with or without a sign, and whether it is imaginary. -/
def number? : Expression → Option Bool
  | .number imaginary => some imaginary
  | .signed (.number imaginary) => some imaginary
  | _ => none

mutual

/-- The value that an expression writes out. -/
def ofExpression : Expression → Except LiteralFault Literal
  | .number _ => .ok .plain
  | .text => .ok .plain
  | .word _ => .ok .plain
  | .tuple items => do return .tuple (← ofItems items)
  | .set items => do
    checkItems items
    return .set
  | .emptySet => .ok .set
  | .table entries => do
    checkEntries entries
    return .table
  | .signed (.number _) => .ok .plain
  | .sum left (.number true) => if number? left = some false then .ok .plain else .error .notLiteral
  | _ => .error .notLiteral

def ofItems : List Expression → Except LiteralFault (List Literal)
  | [] => .ok []
  | item :: rest => do return (← ofExpression item) :: (← ofItems rest)

/-- Checks the items of a set one after the other. -/
def checkItems : List Expression → Except LiteralFault Unit
  | [] => .ok ()
  | item :: rest => do
    checkKey (← ofExpression item)
    checkItems rest

/-- Checks the entries of a table one after the other. -/
def checkEntries : List (Option Expression × Expression) → Except LiteralFault Unit
  | [] => .ok ()
  | (none, _) :: _ => .error .borrowed
  | (some key, value) :: rest => do
    let key ← ofExpression key
    let _ ← ofExpression value
    checkKey key
    checkEntries rest

end

/-- Checks that a text writes a value out. -/
def check (cs : List Char) : Except LiteralFault Unit := do
  let expression ← (Grammar.read cs).mapError .expression
  let _ ← ofExpression expression

end Literal

end ComputeNodes.Markup
