/-
Expressions.

Of an expression only as much is kept as matters for what it writes out, for where it may stand, and
for how it is called in what is said of it.
-/

namespace ComputeNodes.Markup

/-- An expression, as far as it matters what it is. -/
inductive Expression where
  | number (imaginary : Bool)
  | text
  /-- Truth values, nothing, and three dots. -/
  | word (s : String)
  | name (s : String)
  | feature
  | tuple (items : List Expression)
  | set (items : List Expression)
  /-- The call that makes a set with nothing in it. -/
  | emptySet
  /-- A table; an entry without a key is another table. -/
  | table (entries : List (Option Expression × Expression))
  | signed (operand : Expression)
  | sum (left right : Expression)
  /-- A comparison; `within` tells whether it asks first whether something is in something. -/
  | comparison (left : Expression) (within : Bool)
  | starred (operand : Expression)
  | other (description : String)
  deriving Inhabited, Repr

namespace Expression

/-- What kind of expression this is. -/
def description : Expression → String
  | .number _ => "literal"
  | .text => "literal"
  | .word "..." => "ellipsis"
  | .word s => s
  | .name _ => "name"
  | .feature => "attribute"
  | .tuple _ => "tuple"
  | .set _ => "set display"
  | .emptySet => "function call"
  | .table _ => "dict literal"
  | .signed _ => "expression"
  | .sum .. => "expression"
  | .comparison .. => "comparison"
  | .starred _ => "starred"
  | .other description => description

mutual

/-- The part of an expression that keeps values from being called by it. -/
def badTarget? : Expression → Option Expression
  | .name _ => none
  | .feature => none
  | .tuple items => firstBadTarget? items
  | .starred operand => badTarget? operand
  | .comparison left true => badTarget? left
  | .comparison _ false => none
  | e => some e

def firstBadTarget? : List Expression → Option Expression
  | [] => none
  | item :: rest => (badTarget? item).or (firstBadTarget? rest)

end

end Expression

end ComputeNodes.Markup
