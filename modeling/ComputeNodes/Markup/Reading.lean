/-
Reading along tokens.

A reading takes tokens off the front, or finds that what it looks for is not there
(`Stop.mismatch`); then another one is tried from the same place (`Reading.optional`).  A fault
stops all of them.

Two things are kept on the way whether a reading succeeds or not: how far any of them has looked,
because what is said of a fault depends on it, and what has been found at a place, because it may be
asked for many times.
-/
import ComputeNodes.Markup.Expression
import ComputeNodes.Markup.Token

namespace ComputeNodes.Markup

/-- Why no expression was read. -/
inductive Stop where
  /-- There is none here. -/
  | mismatch
  | fault (fault : ExpressionFault)
  /-- The tokens break off. -/
  | broken (fault : ExpressionFault)

/-- A part of an expression that is read only once at a place. -/
inductive Part where
  | expression
  | starExpression
  /-- Operands with operators of a strength or a greater one between them. -/
  | operation (strength : Nat)
  | primary
  deriving DecidableEq

/-- How far tokens have been read. -/
structure Progress where
  left : List Lexeme
  /-- The fewest tokens that were left when one was looked at. -/
  fewest : Nat := left.length
  /-- How the expressions inside of texts are checked. -/
  inner : List Char → Except ExpressionFault Unit
  /-- What has been found where so many tokens were left, and what was left behind it. -/
  found : List ((Nat × Part) × Option (Expression × List Lexeme)) := []

/-- Reading along the tokens of an expression. -/
abbrev Reading := ExceptT Stop (StateM Progress)

namespace Reading

variable {α : Type}

/-! ### Alternatives -/

def mismatch : Reading α := throw .mismatch

def slip (fault : ExpressionFault) : Reading α := throw (.fault fault)

/-- The tokens that are left. -/
def left : Reading (List Lexeme) := do return (← get).left

/-- Goes on with the given tokens. -/
def goOn (left : List Lexeme) : Reading Unit := modify fun p => { p with left }

/-- Reads something if it is there, and otherwise nothing. -/
def optional (reading : Reading α) : Reading (Option α) := do
  let start ← left
  tryCatch (some <$> reading) fun
    | .mismatch => do
      goOn start
      return none
    | stop => throw stop

/-- Reads one thing, or else another. -/
def either (first second : Reading α) : Reading α := do
  match ← optional first with
  | some value => return value
  | none => second

/-- Whether something is there, of which nothing is taken. -/
def isNext (reading : Reading α) : Reading Bool := do
  let start ← left
  let found ← optional reading
  goOn start
  return found.isSome

/-- Looks for a slip, and takes nothing. -/
def lookOut (reading : Reading Unit) : Reading Unit := do
  let _ ← isNext reading

/-- Reads a part, unless that has been done here. -/
def once (part : Part) (reading : Reading Expression) : Reading Expression := do
  let start ← left
  match (← get).found.lookup (start.length, part) with
  | some (some (value, rest)) =>
    goOn rest
    return value
  | some none => mismatch
  | none =>
    let result ← optional reading
    let rest ← left
    modify fun p =>
      { p with found := ((start.length, part), result.map (·, rest)) :: p.found }
    match result with
    | some value => return value
    | none => mismatch

/-! ### Tokens -/

/-- The next token. -/
def peek : Reading Token := do
  let tokens ← left
  modify fun p => { p with fewest := min p.fewest tokens.length }
  match tokens with
  | ⟨.broken fault, _, _, _⟩ :: _ => throw (.broken fault)
  | lexeme :: _ => return lexeme.token
  | [] => return .ended

def skip : Reading Unit := do goOn ((← left).drop 1)

/-- The token behind the next one. -/
def peekSecond : Reading Token := do
  let tokens ← left
  skip
  let token ← peek
  goOn tokens
  return token

/-- Takes a token, if it is the next one. -/
def accept (token : Token) : Reading Bool := do
  if (← peek) = token then
    skip
    return true
  return false

def acceptMark (s : String) : Reading Bool := accept (.mark s)

def expect (token : Token) : Reading Unit := do
  if !(← accept token) then
    mismatch

def expectMark (s : String) : Reading Unit := expect (.mark s)

/-- Goes on only if the next token is none of these. -/
def noneOf (tokens : List Token) : Reading Unit := do
  if tokens.contains (← peek) then
    mismatch

def name : Reading String := do
  match ← peek with
  | .name s =>
    skip
    return s
  | _ => mismatch

/-! ### Rows -/

/-- Things with commas between them, as many as there are, at most so many. -/
def upTo (reading : Reading α) : Nat → Reading (List α)
  | 0 => mismatch
  | limit + 1 => do
    let first ← reading
    let rest ← optional do
      expectMark ","
      upTo reading limit
    return first :: rest.getD []

/-- Things with commas between them, at least one. -/
def row (reading : Reading α) : Reading (List α) := do upTo reading ((← left).length + 1)

/-- Things with commas between them, and perhaps one behind the last. -/
def rowWithEnd (reading : Reading α) : Reading (List α) := do
  let found ← row reading
  let _ ← acceptMark ","
  return found

/-- One thing, or a tuple of things with commas behind them. -/
def oneOrTuple (reading : Reading Expression) : Reading Expression := do
  let found ← row reading
  let more ← acceptMark ","
  return match found, more with
    | [value], false => value
    | items, _ => .tuple items

end Reading

end ComputeNodes.Markup
