/-
Texts that values are put into.

Between braces such a text holds expressions, each of which may go on with how it is converted and
how it is laid out; a layout may hold expressions again.  A brace that is written twice is text.

Where an expression ends is found out before it is read: at a mark that can follow it, outside of
its own texts and parentheses.  An expression is read as if it stood in parentheses, and what is
wrong with it is told apart from what is wrong with the text around it
(`ExpressionFault.interpolated`).
-/
import ComputeNodes.Markup.Escape

namespace ComputeNodes.Markup.Interpolation

/-- Checks what an expression says. -/
abbrev Check := List Char → Except ExpressionFault Unit

/-- How a text is read that values are put into. -/
structure Setting where
  /-- Whether backslashes are characters like any other. -/
  raw : Bool
  expression : Check

/-! ### Text between expressions -/

/-- Takes text off the front, up to an expression or to the end of a layout.  A brace that is
written twice ends it as well, which the second part of the answer tells.  The text so far comes
with its last character first; the fuel is the number of characters. -/
def splitText (raw inLayout : Bool) :
    Nat → List Char → List Char → Except ExpressionFault (List Char × Bool × List Char)
  | 0, sofar, cs => .ok (sofar.reverse, false, cs)
  | _, sofar, [] => .ok (sofar.reverse, false, [])
  | fuel + 1, sofar, c :: rest =>
    let brace (sofar : List Char) (c : Char) (rest : List Char) :
        Except ExpressionFault (List Char × Bool × List Char) :=
      if !inLayout && rest.head? == some c then .ok ((c :: sofar).reverse, true, rest.drop 1)
      else if !inLayout && c == '\x7d' then .error .loneBrace
      else .ok (sofar.reverse, false, c :: rest)
    let isBrace (c : Char) : Bool := c == '\x7b' || c == '\x7d'
    if c = '\\' ∧ !raw then
      match rest with
      | 'N' :: '\x7b' :: rest =>
        let name := rest.takeWhile (· != '\x7d')
        let whole := "\\N\x7b".toList ++ name ++ (rest.drop name.length).take 1
        splitText raw inLayout fuel (whole.reverse ++ sofar) (rest.drop (name.length + 1))
      | 'N' :: c :: rest => splitText raw inLayout fuel (c :: 'N' :: '\\' :: sofar) rest
      | c :: rest =>
        if isBrace c then brace ('\\' :: sofar) c rest
        else splitText raw inLayout fuel (c :: '\\' :: sofar) rest
      | [] => splitText raw inLayout fuel ('\\' :: sofar) []
    else if isBrace c then brace sofar c rest
    else splitText raw inLayout fuel (c :: sofar) rest

/-! ### Where an expression ends -/

/-- Where one is inside an expression. -/
structure Place where
  /-- The mark of the text that is open, and whether it is a long one. -/
  quote : Option (Char × Bool) := none
  /-- The parentheses that are open, the last one first. -/
  opened : List Char := []

/-- The most parentheses that may be open. -/
def mostOpened : Nat := 200

/-- Takes an expression off the front, which need not be a faultless one.  The expression so far
comes with its last character first; the fuel is the number of characters. -/
def splitExpression :
    Nat → Place → List Char → List Char → Except ExpressionFault (List Char × List Char)
  | 0, _, sofar, cs => .ok (sofar.reverse, cs)
  | _, p, sofar, [] =>
    match p.quote, p.opened with
    | some _, _ => .error .unendedInner
    | none, opening :: _ => .error (.unmatchedInner opening)
    | none, [] => .ok (sofar.reverse, [])
  | fuel + 1, p, sofar, c :: rest =>
    if c = '\\' then .error .innerBackslash
    else match p.quote with
      | some (mark, long) =>
        if c ≠ mark then splitExpression fuel p (c :: sofar) rest
        else if !long then splitExpression fuel { p with quote := none } (c :: sofar) rest
        else if [c, c].isPrefixOf rest then
          splitExpression fuel { p with quote := none } (c :: c :: c :: sofar) (rest.drop 2)
        else splitExpression fuel p (c :: sofar) rest
      | none =>
        if c = '\x27' ∨ c = '\x22' then
          if [c, c].isPrefixOf rest then
            splitExpression fuel { p with quote := some (c, true) } (c :: c :: c :: sofar)
              (rest.drop 2)
          else splitExpression fuel { p with quote := some (c, false) } (c :: sofar) rest
        else if c = '(' ∨ c = '\x7b' then
          if mostOpened ≤ p.opened.length then .error .tooDeepInner
          else splitExpression fuel { p with opened := c :: p.opened } (c :: sofar) rest
        else if c = '#' then .error .innerComment
        else if p.opened.isEmpty && "!:\x7d=><".toList.contains c then
          if "!=><".toList.contains c && rest.head? == some '=' then
            splitExpression fuel p ('=' :: c :: sofar) (rest.drop 1)
          else if c = '>' ∨ c = '<' then splitExpression fuel p (c :: sofar) rest
          else .ok (sofar.reverse, c :: rest)
        else if c = ')' ∨ c = '\x7d' then
          match p.opened with
          | [] => .error (.unmatchedInner c)
          | opening :: opened =>
            if Token.closing opening = c then
              splitExpression fuel { p with opened } (c :: sofar) rest
            else .error (.mismatchedInner c opening)
        else splitExpression fuel p (c :: sofar) rest

/-! ### Whole texts -/

/-- Checks the expression in front of what follows it. -/
def checkExpression (check : Check) (cs behind : List Char) : Except ExpressionFault Unit :=
  let isBlank (c : Char) : Bool := c == ' ' || c == '\t' || c == '\n' || c == '\x0c'
  if cs.all isBlank then
    match behind with
    | '\x7d' :: _ => .error .noInner
    | c :: _ => .error (.noInnerBefore c)
    | [] => .error .noInner
  else check cs

/-- Takes a conversion off the front, behind its mark. -/
def splitConversion : List Char → Except ExpressionFault (List Char)
  | c :: rest => if "sra".toList.contains c then .ok rest else .error .unknownConversion
  | [] => .error .missingBrace

/-- Passes over the sign that shows an expression itself, and the blanks behind it. -/
def skipEquals : List Char → List Char
  | '=' :: rest => rest.dropWhile fun c => c == ' ' || (9 ≤ c.toNat && c.toNat ≤ 13)
  | cs => cs

mutual

/-- Checks a text, or a layout at a level of them, and gives what follows it.  The fuel is the
number of characters. -/
def checkFrom (setting : Setting) :
    Nat → Nat → List Char → Except ExpressionFault (List Char)
  | 0, _, cs => .ok cs
  | fuel + 1, level, cs => do
    let (text, again, rest) ← splitText setting.raw (level != 0) (cs.length + 1) [] cs
    if !setting.raw then
      Escape.checkEscapes false text.length 0 text
    if again then
      return ← checkFrom setting fuel level rest
    match rest with
    | '\x7b' :: rest => checkFrom setting fuel level (← checkPart setting fuel level rest)
    | '\x7d' :: _ => return rest
    | _ => if level = 0 then return rest else throw .missingBrace

/-- Checks an expression with all that belongs to it, behind its brace, and gives what follows. -/
def checkPart (setting : Setting) :
    Nat → Nat → List Char → Except ExpressionFault (List Char)
  | 0, _, cs => .ok cs
  | fuel + 1, level, cs => do
    if 2 ≤ level then
      throw .tooNested
    let (expression, rest) ← splitExpression (cs.length + 1) {} [] cs
    if rest.isEmpty then
      throw .missingBrace
    checkExpression setting.expression expression rest
    let rest ← match skipEquals rest with
      | '!' :: rest => splitConversion rest
      | rest => pure rest
    let rest ← match rest with
      | [':'] => throw .missingBrace
      | ':' :: rest => checkFrom setting fuel (level + 1) rest
      | rest => pure rest
    match rest with
    | '\x7d' :: rest => return rest
    | _ => throw .missingBrace

end

/-- Checks a text that values are put into. -/
def check (setting : Setting) (cs : List Char) : Except ExpressionFault Unit := do
  let _ ← checkFrom setting (2 * cs.length + 2) 0 cs

end ComputeNodes.Markup.Interpolation
