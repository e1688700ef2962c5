/-
The grammar of expressions.

An expression is read by descent along the strengths of its operators (`Grammar.operation`).  A
faulty one is read a second time.  That reading is watchful: it looks out for common slips on the
way — a comma that is missing, an assignment, a star in the wrong place — and reports the first one
that it meets.  A fault that nothing better is known about is `unexpected`.

Where tokens break off behind a slip, that may count for more than the slip (`Grammar.weighed`).
-/
import ComputeNodes.Markup.Interpolation
import ComputeNodes.Markup.Reading

namespace ComputeNodes.Markup.Grammar

open Reading

/-! ### Texts -/

/-- The next text, if it is one: the letters in front of it, and what it says. -/
def textPiece : Reading (List Char × List Char) := do
  match ← peek with
  | .text letters body =>
    skip
    return (letters, body)
  | _ => mismatch

/-- Texts one after the other, at most so many. -/
def textPieces : Nat → Reading (List (List Char × List Char))
  | 0 => return []
  | limit + 1 => do
    match ← optional textPiece with
    | some piece => return piece :: (← textPieces limit)
    | none => return []

/-- Checks texts one after the other; `bytes` tells whether the first one is of bytes. -/
def checkTexts (bytes : Bool) (inner : Interpolation.Check) :
    List (List Char × List Char) → Except ExpressionFault Unit
  | [] => .ok ()
  | (letters, body) :: rest => do
    let isOf (letter : Char) : Bool := letters.contains letter
    if !isOf 'f' then
      Escape.checkText (isOf 'b') (isOf 'r') body
    if isOf 'b' != bytes then
      throw .mixedTexts
    if isOf 'f' then
      Interpolation.check { raw := isOf 'r', expression := inner } body
    checkTexts bytes inner rest

/-- Texts one after the other, which are one; behind an `f` it is put together from others. -/
def texts : Reading Expression := do
  let found ← textPieces (← left).length
  let bytes := found.head?.any fun (letters, _) => letters.contains 'b'
  if let .error fault := checkTexts bytes (← get).inner found then
    slip fault
  return if found.any fun (letters, _) => letters.contains 'f' then .other "f-string expression"
    else .text

/-! ### Operators -/

/-- The operators of a strength, weaker ones first. -/
def operators : Nat → List Token
  | 0 => [.word "or"]
  | 1 => [.word "and"]
  | 3 => [.mark "==", .mark "!=", .mark "<", .mark ">", .mark "<=", .mark ">=", .word "in"]
  | 4 => [.mark "|"]
  | 5 => [.mark "^"]
  | 6 => [.mark "&"]
  | 7 => [.mark "<<", .mark ">>"]
  | 8 => [.mark "+", .mark "-"]
  | 9 => [.mark "*", .mark "/", .mark "//", .mark "%", .mark "@"]
  | _ => []

/-- The strengths of negations, of comparisons, of the operators inside them, and of the operators
with one operand and with none. -/
def negating : Nat := 2

def comparing : Nat := 3

def inside : Nat := 4

def signing : Nat := 10

def raising : Nat := 11

/-- Takes an operator of a strength. -/
def operator (strength : Nat) : Reading Token := do
  let token ← peek
  if (operators strength).contains token then
    skip
    return token
  if strength = comparing then
    if token = .word "not" then
      if (← peekSecond) = .word "in" then
        skip
        skip
        return token
    else if token = .word "is" then
      skip
      let _ ← accept (.word "not")
      return token
  mismatch

/-- Two expressions with an operator between them; the left one of a comparison stays. -/
def joined (operator : Token) (left right : Expression) : Expression :=
  match operator, left with
  | .mark "+", _ => .sum left right
  | .mark "-", _ => .sum left right
  | .word "or", _ => .other "expression"
  | .word "and", _ => .other "expression"
  | .word w, _ => .comparison left (w == "in")
  | _, _ =>
    if (operators comparing).contains operator then .comparison left false
    else .other "expression"

/-- The names that once were called without parentheses. -/
def legacyNames : List String := ["print", "exec"]

/-- Whether a name may begin something else: these words count from their first letter on. -/
def isSoft (s : String) : Bool :=
  ["match", "case", "_"].any fun word => s.toList.isPrefixOf word.toList

/-- The words that are values. -/
def valueWords : List String := ["True", "False", "None"]

/-! ### Arguments -/

/-- What is known of the arguments of a call. -/
structure Arguments where
  positional : Nat
  /-- Whether there are any tables of names. -/
  tables : Bool

/-- An argument. -/
inductive Argument where
  | positional
  | named
  | table
  deriving DecidableEq

def Arguments.ofList (arguments : List Argument) : Arguments where
  positional := arguments.count .positional
  tables := arguments.contains .table

/-! ### Expressions -/

/-- Looks for parameters in parentheses, behind others. -/
def groupedParameters : Nat → Reading Unit
  | 0 => mismatch
  | limit + 1 => do
    if ← acceptMark "(" then
      let _ ← rowWithEnd name
      expectMark ")"
      slip .groupedParameters
    let _ ← name
    expectMark ","
    groupedParameters limit

mutual

/-- An expression. -/
def expression (watchful : Bool) : Nat → Reading Expression
  | 0 => mismatch
  | fuel + 1 => once .expression do
    if watchful then
      lookOut (missing fuel)
      lookOut (legacy fuel)
    unchecked watchful fuel

/-- An expression that no look-out is kept for. -/
def unchecked (watchful : Bool) : Nat → Reading Expression
  | 0 => mismatch
  | fuel + 1 => do
    if ← accept (.word "lambda") then
      if watchful then
        lookOut (groupedParameters fuel)
      parameters watchful fuel
      expectMark ":"
      let _ ← expression watchful fuel
      return .other "lambda"
    let value ← operation watchful fuel 0
    let choice ← optional do
      expect (.word "if")
      let _ ← operation watchful fuel 0
      expect (.word "else")
      let _ ← expression watchful fuel
    return if choice.isSome then .other "conditional expression" else value

/-- A comma or an `else` that is missing. -/
def missing : Nat → Reading Unit
  | 0 => mismatch
  | fuel + 1 => do
    let exempt ← match ← peek with
      | .name s => do
        match ← peekSecond with
        | .text .. => pure true
        | _ => pure (isSoft s)
      | _ => pure false
    if !exempt then
      let isTwo ← isNext do
        let first ← operation true fuel 0
        let start ← left
        let _ ← unchecked false fuel
        let last := start[start.length - (← left).length - 1]?
        let isLegacy := match first with
          | .name s => legacyNames.contains s
          | _ => false
        if !isLegacy && last.any fun lexeme => !lexeme.opened.isEmpty then
          slip .missingComma
      if isTwo then
        mismatch
    let _ ← operation true fuel 0
    expect (.word "if")
    let _ ← operation true fuel 0
    noneOf [.word "else", .mark ":"]
    slip .missingElse

/-- A name that is followed by what it is to be called with. -/
def legacy : Nat → Reading Unit
  | 0 => mismatch
  | fuel + 1 => do
    let s ← name
    noneOf [.mark "("]
    let _ ← oneOrTuple (starExpression true fuel)
    if legacyNames.contains s then
      slip (.missingParentheses s)

/-- An expression, or a starred one. -/
def starExpression (watchful : Bool) : Nat → Reading Expression
  | 0 => mismatch
  | fuel + 1 => once .starExpression do
    if ← acceptMark "*" then
      return .starred (← operation watchful fuel inside)
    expression watchful fuel

/-- A starred expression in the place of an argument. -/
def starred (watchful : Bool) : Nat → Reading Expression
  | 0 => mismatch
  | fuel + 1 => do
    expectMark "*"
    match ← optional (expression watchful fuel) with
    | some value => return .starred value
    | none => slip .bareStar

/-- The parameters of a function, up to the colon. -/
def parameters (watchful : Bool) : Nat → Reading Unit
  | 0 => mismatch
  | fuel + 1 => do
    if (← peek) = .mark ":" then
      return
    if !(← acceptMark "/") then
      let star ← acceptMark "*"
      let stars ← if star then pure true else acceptMark "**"
      if (← optional name).isSome then
        if ← acceptMark "=" then
          let token ← peek
          if watchful && [.mark ")", .mark ","].contains token then
            slip .missingDefault
          let _ ← expression watchful fuel
      else if !stars then
        mismatch
    if ← acceptMark "," then
      parameters watchful fuel

/-- Operands with operators of a strength or a greater one between them. -/
def operation (watchful : Bool) : Nat → Nat → Reading Expression
  | 0, _ => mismatch
  | fuel + 1, strength => once (.operation strength) do
    if strength = negating then
      if ← accept (.word "not") then
        let _ ← operation watchful fuel negating
        return .other "expression"
      operation watchful fuel comparing
    else if strength = signing then
      match ← peek with
      | .mark "+" => skip; return .signed (← operation watchful fuel signing)
      | .mark "-" => skip; return .signed (← operation watchful fuel signing)
      | .mark "~" =>
        skip
        let _ ← operation watchful fuel signing
        return .other "expression"
      | _ => operation watchful fuel raising
    else if strength = raising then
      let awaited ← accept (.word "await")
      let base ← primary watchful fuel
      let base := if awaited then .other "await expression" else base
      let power ← optional do
        expectMark "**"
        operation watchful fuel signing
      return if power.isSome then .other "expression" else base
    else
      let first ← operation watchful fuel (strength + 1)
      chain watchful fuel strength first

/-- What follows an operand among operators of a strength. -/
def chain (watchful : Bool) : Nat → Nat → Expression → Reading Expression
  | 0, _, _ => mismatch
  | fuel + 1, strength, first => do
    let next ← optional do
      let operator ← operator strength
      return (operator, ← operation watchful fuel (strength + 1))
    match next with
    | some (operator, second) => chain watchful fuel strength (joined operator first second)
    | none => return first

/-- An operand with its features and calls. -/
def primary (watchful : Bool) : Nat → Reading Expression
  | 0 => mismatch
  | fuel + 1 => once .primary do postfixes watchful fuel (← atom watchful fuel)

/-- The features and calls behind an operand. -/
def postfixes (watchful : Bool) : Nat → Expression → Reading Expression
  | 0, _ => mismatch
  | fuel + 1, base => do
    let next ← optional do
      if ← acceptMark "." then
        let _ ← name
        return .feature
      match ← optional (generator watchful fuel) with
      | some _ => return .other "function call"
      | none => call watchful fuel base
    match next with
    | some value => postfixes watchful fuel value
    | none => return base

/-- The call of an operand. -/
def call (watchful : Bool) : Nat → Expression → Reading Expression
  | 0, _ => mismatch
  | fuel + 1, base => do
    expectMark "("
    if ← acceptMark ")" then
      match base with
      | .name "set" => return .emptySet
      | _ => return .other "function call"
    let found ← optional do
      let _ ← arguments watchful fuel
      let _ ← acceptMark ","
      expectMark ")"
    if found.isNone then
      if watchful then
        badArguments fuel
      mismatch
    return .other "function call"

/-- The arguments of a call: positional ones, then named ones, then tables of names. -/
def arguments (watchful : Bool) : Nat → Reading Arguments
  | 0 => mismatch
  | fuel + 1 => do
    let keywords : Reading (List Argument) := do
      match ← optional (row (keywordOrStarred watchful fuel)) with
      | some first =>
        let rest ← optional do
          expectMark ","
          row (keywordOrTable watchful fuel)
        return first ++ rest.getD []
      | none => row (keywordOrTable watchful fuel)
    match ← optional (row (positional watchful fuel)) with
    | some first =>
      let rest ← optional do
        expectMark ","
        keywords
      return .ofList (first ++ rest.getD [])
    | none => return .ofList (← keywords)

/-- A positional argument. -/
def positional (watchful : Bool) : Nat → Reading Argument
  | 0 => mismatch
  | fuel + 1 => do
    if (← optional (starred watchful fuel)).isNone then
      let _ ← plainArgument watchful fuel
      noneOf [.mark "="]
    return .positional

/-- An expression that may be given a name. -/
def plainArgument (watchful : Bool) : Nat → Reading Expression
  | 0 => mismatch
  | fuel + 1 => do
    either (naming watchful fuel) do
      let value ← expression watchful fuel
      noneOf [.mark ":="]
      return value

/-- A named argument. -/
def keyword (watchful : Bool) : Nat → Reading Argument
  | 0 => mismatch
  | fuel + 1 => do
    if watchful then
      lookOut (badKeyword fuel)
    let _ ← name
    expectMark "="
    let _ ← expression watchful fuel
    return .named

/-- A named argument, or a starred one between them. -/
def keywordOrStarred (watchful : Bool) : Nat → Reading Argument
  | 0 => mismatch
  | fuel + 1 => do
    either (keyword watchful fuel) do
      let _ ← starred watchful fuel
      return .positional

/-- A named argument, or a table of them. -/
def keywordOrTable (watchful : Bool) : Nat → Reading Argument
  | 0 => mismatch
  | fuel + 1 => do
    either (keyword watchful fuel) do
      expectMark "**"
      let _ ← expression watchful fuel
      return .table

/-- An argument that is given to something other than a name. -/
def badKeyword : Nat → Reading Unit
  | 0 => mismatch
  | fuel + 1 => do
    let isNamed ← match ← peek with
      | .word s => do
        if valueWords.contains s then
          if (← peekSecond) = .mark "=" then
            slip (.target s)
        pure false
      | .name _ => pure ((← peekSecond) == .mark "=")
      | _ => pure false
    if isNamed then
      skip
      skip
      let _ ← expression true fuel
      clauses true fuel
      slip .assignedName
    else
      let _ ← expression true fuel
      expectMark "="
      slip .assignedArgument

/-- Arguments that do not go together. -/
def badArguments : Nat → Reading Unit
  | 0 => mismatch
  | fuel + 1 => do
    lookOut do
      let _ ← arguments true fuel
      expectMark ","
      expectMark "*"
      slip .starBehindTable
    lookOut do
      let _ ← expression true fuel
      clauses true fuel
      expectMark ","
      let _ ← optional do
        let _ ← arguments true fuel
      slip .bareGenerator
    lookOut do
      let _ ← name
      expectMark "="
      let _ ← expression true fuel
      clauses true fuel
      slip .assignedName
    lookOut do
      let found ← arguments true fuel
      clauses true fuel
      if 1 < found.positional then
        slip .bareGenerator
    lookOut do
      let _ ← arguments true fuel
      expectMark ","
      let _ ← expression true fuel
      clauses true fuel
      slip .bareGenerator
    let found ← arguments true fuel
    expectMark ","
    let _ ← arguments true fuel
    slip (if found.tables then .positionalBehindTable else .positionalBehindNamed)

/-- What stands by itself. -/
def atom (watchful : Bool) : Nat → Reading Expression
  | 0 => mismatch
  | fuel + 1 => do
    match ← peek with
    | .name s =>
      skip
      return .name s
    | .word s =>
      if valueWords.contains s then
        skip
        return .word s
      mismatch
    | .number imaginary =>
      skip
      return .number imaginary
    | .text .. => texts
    | .mark "..." =>
      skip
      return .word "..."
    | .mark "(" => parenthesized watchful fuel
    | .mark "\x7b" => braced watchful fuel
    | _ => mismatch

/-- A tuple, an expression in parentheses, or a generator. -/
def parenthesized (watchful : Bool) : Nat → Reading Expression
  | 0 => mismatch
  | fuel + 1 => do
    either (tuple watchful fuel) do
      let single ← optional do
        expectMark "("
        let value ← either (yielded watchful fuel) (namedExpression watchful fuel)
        expectMark ")"
        return value
      if let some value := single then
        return value
      if watchful then
        lookOut do
          expectMark "("
          let _ ← starred true fuel
          expectMark ")"
          slip .starredAlone
        lookOut do
          expectMark "("
          expectMark "**"
          let _ ← expression true fuel
          expectMark ")"
          slip .doublyStarredAlone
      generator watchful fuel

/-- A tuple in its parentheses. -/
def tuple (watchful : Bool) : Nat → Reading Expression
  | 0 => mismatch
  | fuel + 1 => do
    expectMark "("
    let items ← optional do
      let first ← item watchful fuel
      expectMark ","
      let rest ← optional (rowWithEnd (item watchful fuel))
      return first :: rest.getD []
    expectMark ")"
    return .tuple (items.getD [])

/-- What is handed out on the way. -/
def yielded (watchful : Bool) : Nat → Reading Expression
  | 0 => mismatch
  | fuel + 1 => do
    expect (.word "yield")
    if ← accept (.word "from") then
      let _ ← expression watchful fuel
    else
      let _ ← optional (oneOrTuple (starExpression watchful fuel))
    return .other "yield expression"

/-- A generator in its parentheses. -/
def generator (watchful : Bool) : Nat → Reading Expression
  | 0 => mismatch
  | fuel + 1 => do
    let found ← optional do
      expectMark "("
      let _ ← plainArgument watchful fuel
      clauses watchful fuel
      expectMark ")"
    if found.isSome then
      return .other "generator expression"
    if watchful then
      lookOut (badComprehension fuel)
    mismatch

/-- A comprehension of something starred, or of several things. -/
def badComprehension : Nat → Reading Unit
  | 0 => mismatch
  | fuel + 1 => do
    lookOut do
      if !(← acceptMark "(") then
        expectMark "\x7b"
      let _ ← starred true fuel
      clauses true fuel
      slip .starredInComprehension
    expectMark "\x7b"
    let _ ← item true fuel
    expectMark ","
    let _ ← optional (rowWithEnd (item true fuel))
    clauses true fuel
    slip .missingTargetParentheses

/-- A table, a set, or a comprehension of one. -/
def braced (watchful : Bool) : Nat → Reading Expression
  | 0 => mismatch
  | fuel + 1 => do
    let closed (reading : Reading Expression) : Reading Expression := do
      expectMark "\x7b"
      let value ← reading
      expectMark "\x7d"
      return value
    let table : Reading Expression := do
      let entries ← optional (rowWithEnd (entry watchful fuel))
      return .table (entries.getD [])
    let set : Reading Expression := do
      return .set (← rowWithEnd (item watchful fuel))
    let tables : Reading Expression := do
      let _ ← pair watchful fuel
      clauses watchful fuel
      return .other "dict comprehension"
    let sets : Reading Expression := do
      let _ ← namedExpression watchful fuel
      clauses watchful fuel
      return .other "set comprehension"
    either (closed table) do
      lookOut do
        expectMark "\x7b"
        badEntry watchful fuel true
      either (closed set) do
        either (closed tables) do
          if watchful then
            lookOut do
              expectMark "\x7b"
              expectMark "**"
              let _ ← operation true fuel inside
              clauses true fuel
              expectMark "\x7d"
              slip .tableInComprehension
          either (closed sets) do
            if watchful then
              lookOut (badComprehension fuel)
            mismatch

/-- A key and its value. -/
def pair (watchful : Bool) : Nat → Reading (Expression × Expression)
  | 0 => mismatch
  | fuel + 1 => do
    let key ← expression watchful fuel
    expectMark ":"
    return (key, ← expression watchful fuel)

/-- An entry of a table, or another table behind two stars. -/
def entry (watchful : Bool) : Nat → Reading (Option Expression × Expression)
  | 0 => mismatch
  | fuel + 1 => do
    if ← acceptMark "**" then
      return (none, ← operation watchful fuel inside)
    let (key, value) ← pair watchful fuel
    return (some key, value)

/-- An entry that is none, as the first one or behind others. -/
def badEntry (watchful : Bool) : Nat → Bool → Reading Unit
  | 0, _ => mismatch
  | fuel + 1, isFirst => do
    let behind ← optional do
      let _ ← entry watchful fuel
      expectMark ","
    if behind.isSome then
      return ← badEntry watchful fuel false
    let _ ← expression watchful fuel
    if !isFirst && (← peek) != .mark ":" then
      slip .missingColon
    expectMark ":"
    if ← acceptMark "*" then
      let _ ← operation watchful fuel inside
      slip .starredEntry
    let token ← peek
    if token = .mark "\x7d" ∨ token = .mark "," then
      slip .missingEntry

/-- An item of a tuple or a set. -/
def item (watchful : Bool) : Nat → Reading Expression
  | 0 => mismatch
  | fuel + 1 => do
    if ← acceptMark "*" then
      return .starred (← operation watchful fuel inside)
    namedExpression watchful fuel

/-- An expression that is given a name. -/
def naming (watchful : Bool) : Nat → Reading Expression
  | 0 => mismatch
  | fuel + 1 => do
    let _ ← name
    expectMark ":="
    let _ ← expression watchful fuel
    return .other "named expression"

/-- An expression that may be given a name, but not assigned to. -/
def namedExpression (watchful : Bool) : Nat → Reading Expression
  | 0 => mismatch
  | fuel + 1 => do
    either (naming watchful fuel) do
      if watchful then
        lookOut (assignment fuel)
      let value ← expression watchful fuel
      noneOf [.mark ":="]
      return value

/-- An assignment. -/
def assignment : Nat → Reading Unit
  | 0 => mismatch
  | fuel + 1 => do
    lookOut do
      let value ← expression true fuel
      expectMark ":="
      let _ ← expression true fuel
      slip (.namedLike value.description)
    lookOut do
      let _ ← name
      expectMark "="
      let _ ← operation true fuel inside
      noneOf [.mark "=", .mark ":="]
      slip .assignedName
    noneOf (valueWords.map .word)
    if ← isNext (either (tuple true fuel) (generator true fuel)) then
      mismatch
    let value ← operation true fuel inside
    expectMark "="
    let _ ← operation true fuel inside
    noneOf [.mark "=", .mark ":="]
    slip (.assignedLike value.description)

/-- The clauses of a comprehension. -/
def clauses (watchful : Bool) : Nat → Reading Unit
  | 0 => mismatch
  | fuel + 1 => do
    let start ← left
    let _ ← accept (.word "async")
    expect (.word "for")
    let named ← optional do
      let _ ← rowWithEnd (target watchful fuel)
      expect (.word "in")
    if named.isNone then
      if watchful then
        goOn start
        let _ ← accept (.word "async")
        expect (.word "for")
        let value ← oneOrTuple (starExpression true fuel)
        if let some bad := value.badTarget? then
          slip (.target bad.description)
      mismatch
    let _ ← operation watchful fuel 0
    conditions watchful fuel
    let _ ← optional (clauses watchful fuel)

/-- The conditions of a clause. -/
def conditions (watchful : Bool) : Nat → Reading Unit
  | 0 => mismatch
  | fuel + 1 => do
    let condition ← optional do
      expect (.word "if")
      let _ ← operation watchful fuel 0
    if condition.isSome then
      conditions watchful fuel

/-- What a value of a clause is called. -/
def target (watchful : Bool) : Nat → Reading Unit
  | 0 => mismatch
  | fuel + 1 => do
    if ← acceptMark "*" then
      noneOf [.mark "*"]
    let feature ← optional do
      match ← primary watchful fuel with
      | .feature => pure ()
      | _ => mismatch
    if feature.isNone then
      if (← optional name).isNone then
        expectMark "("
        let _ ← optional (rowWithEnd (target watchful fuel))
        expectMark ")"

end

/-! ### Whole texts -/

/-- Line ends one after the other. -/
def skipLineEnds : Nat → Reading Unit
  | 0 => return
  | fuel + 1 => do
    if ← accept .lineEnd then
      skipLineEnds fuel

/-- A whole text of one expression, or of several with commas between them. -/
def whole (watchful : Bool) (limit : Nat) : Reading Expression := do
  let value ← oneOrTuple (expression watchful limit)
  skipLineEnds limit
  expect .ended
  return value

/-- The last token that has been looked at. -/
def lastSeen? (tokens : List Lexeme) (progress : Progress) : Option Lexeme :=
  tokens[tokens.length - progress.fewest]?

/-- What a fault comes to: tokens that break off behind it may count for more. -/
def weighed (tokens : List Lexeme) (progress : Progress) (fault : ExpressionFault) :
    ExpressionFault :=
  match tokens.getLast? with
  | some ⟨.broken later, opened, _, _⟩ =>
    if !later.isSoft then later
    else match opened, lastSeen? tokens progress with
      | (c, line) :: _, some seen =>
        if line < seen.line ∧ (fault = .unexpected ∨ !seen.isLast) then .neverClosed c else fault
      | _, _ => fault
  | _ => fault

/-- Reads tokens, once or twice; `reading` gets to know whether it is watchful. -/
def readTokens (inner : Interpolation.Check) (reading : Bool → Reading Expression)
    (tokens : List Lexeme) : Except ExpressionFault Expression :=
  match (reading false).run { left := tokens, inner } with
  | (.ok value, _) => .ok value
  | (.error (.broken fault), _) => .error fault
  | (.error (.fault fault), progress) => .error (weighed tokens progress fault)
  | (.error .mismatch, first) =>
    match (reading true).run { left := tokens, fewest := first.fewest, inner } with
    | (.error (.broken fault), _) => .error fault
    | (.error (.fault fault), progress) => .error (weighed tokens progress fault)
    | (_, progress) =>
      if (lastSeen? tokens first).any (·.token == .indent) then .error .indented
      else .error (weighed tokens progress .unexpected)

/-- How deep readings go among so many tokens. -/
def limitFor (tokens : List Lexeme) : Nat := 40 * (tokens.length + 2)

/-- Checks an expression inside of a text, with at most so many such texts around each other. -/
def checkInner : Nat → List Char → Except ExpressionFault Unit
  | 0, _ => .ok ()
  | depth + 1, cs =>
    let tokens := Token.all ('(' :: cs ++ [')'])
    let limit := limitFor tokens
    let reading (watchful : Bool) := oneOrTuple (starExpression watchful limit)
    match readTokens (checkInner depth) reading tokens with
    | .ok _ => .ok ()
    | .error fault => .error (if fault.isOfToken then fault else .interpolated fault)

/-- Reads an expression. -/
def read (cs : List Char) : Except ExpressionFault Expression :=
  let tokens := Token.all cs
  readTokens (checkInner cs.length) (fun watchful => whole watchful (limitFor tokens)) tokens

end ComputeNodes.Markup.Grammar
