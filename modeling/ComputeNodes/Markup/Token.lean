/-
Tokens of written values.

The actions of marked-up text take values that are written as expressions: numbers, texts, tuples,
sets and tables.  An expression is cut into tokens first.  Every token knows which parentheses are
open behind it, and a parenthesis that closes must belong to the last one that is open.

Where there is no token the last one says why (`Token.broken`).  Most of these faults count wherever
they stand.  A parenthesis that stays open, and a backslash with something behind it, are at fault
only if the tokens make sense up to there (`ExpressionFault.isSoft`).

There are no square brackets: marked-up text keeps them for its tags.
-/
import ComputeNodes.Markup.ExpressionFault
import ComputeNodes.Text.Letter

namespace ComputeNodes.Markup

/-- A piece of an expression. -/
inductive Token where
  | name (s : String)
  /-- A name that is kept for a purpose of its own. -/
  | word (s : String)
  | number (imaginary : Bool)
  /-- A text: the letters in front of it, and what is between its marks. -/
  | text (letters body : List Char)
  | mark (s : String)
  | lineEnd
  | indent
  | ended
  | broken (fault : ExpressionFault)
  deriving DecidableEq, Repr

/-- Whether a token is a text. -/
def Token.isText : Token → Bool
  | .text .. => true
  | _ => false

/-- A token in its place. -/
structure Lexeme where
  token : Token
  /-- The parentheses that are open behind it, with their lines, the last one first. -/
  opened : List (Char × Nat) := []
  line : Nat := 1
  /-- Whether the end of the text has been seen with it. -/
  isLast : Bool := false
  deriving Repr

namespace Token

/-- The names that are kept for purposes of their own. -/
def words : List String :=
  ["False", "None", "True", "and", "as", "assert", "async", "await", "break", "class", "continue",
   "def", "del", "elif", "else", "except", "finally", "for", "from", "global", "if", "import",
   "in", "is", "lambda", "nonlocal", "not", "or", "pass", "raise", "return", "try", "while",
   "with", "yield"]

/-- The marks, longer ones first. -/
def marks : List String :=
  ["...", "**=", "//=", "<<=", ">>=", "!=", "%=", "&=", "**", "*=", "+=", "-=", "->", "//", "/=",
   ":=", "<<", "<=", "<>", "==", ">=", ">>", "@=", "^=", "|="]

/-- Whether a name may begin with a character, or holds one beyond ASCII. -/
def beginsName (c : Char) : Bool := c.isAlpha || c == '_' || 128 ≤ c.toNat

/-- Whether a character may be in a name, or is one beyond ASCII. -/
def inName (c : Char) : Bool := beginsName c || c.isDigit

/-- Checks that the characters of a name beyond ASCII may be there. -/
def checkName (cs : List Char) : Except ExpressionFault Unit :=
  let isWrong (belongs : Char → Bool) (c : Char) : Bool := 128 ≤ c.toNat && !belongs c
  let wrong := match cs with
    | first :: rest =>
      if isWrong Text.isFirstOfName first then some first else rest.find? (isWrong Text.isOfName)
    | [] => none
  match wrong with
  | none => .ok ()
  | some c => .error (if Text.isPrintable c then .foreignCharacter c else .hiddenCharacter c)

/-! ### Numbers -/

/-- Whether a word that may follow a number at once stands in front of a text. -/
def beginsWithFollower (cs : List Char) : Bool :=
  ["if", "in", "is"].any (·.toList.isPrefixOf cs)
    || ["and", "else", "for", "or", "not"].contains (String.ofList (cs.takeWhile inName))

/-- Checks what follows a number. -/
def checkBehind (base : String) (rest : List Char) : Except ExpressionFault Unit :=
  match rest with
  | c :: _ =>
    if c.toNat < 128 && inName c && !beginsWithFollower rest then .error (.malformedNumber base)
    else .ok ()
  | [] => .ok ()

/-- Drops digits off the front, with single underscores between them; `fault` says what is wrong
with an underscore that no digit follows.  The fuel is the number of characters. -/
def dropDigits (isDigit : Char → Bool) (fault : List Char → ExpressionFault) :
    Nat → List Char → Except ExpressionFault (List Char)
  | 0, cs => .ok cs
  | fuel + 1, cs =>
    match cs.dropWhile isDigit with
    | '_' :: rest =>
      match rest with
      | c :: _ => if isDigit c then dropDigits isDigit fault fuel rest else .error (fault rest)
      | [] => .error (fault [])
    | rest => .ok rest

/-- What follows a run of decimal digits. -/
def behindDigits (cs : List Char) : Except ExpressionFault (List Char) :=
  dropDigits Char.isDigit (fun _ => .malformedNumber "decimal") cs.length cs

/-- What follows the digits of a number in another base, behind its letter. -/
def behindBased (base : String) (isDigit : Char → Bool) (cs : List Char) :
    Except ExpressionFault (List Char) := do
  let fault (cs : List Char) : ExpressionFault :=
    match cs with
    | c :: _ => if c.isDigit && base != "hexadecimal" then .foreignDigit c base
      else .malformedNumber base
    | [] => .malformedNumber base
  let cs := match cs with
    | '_' :: rest => rest
    | _ => cs
  if !(cs.head?.any isDigit) then throw (fault cs)
  let rest ← dropDigits isDigit fault cs.length cs
  if base != "hexadecimal" then
    if let some c := rest.head? then
      if c.isDigit then throw (.foreignDigit c base)
  checkBehind base rest
  return rest

/-- What follows a number that may have a fraction and an exponent, from behind its whole digits,
and whether it is imaginary. -/
def behindFraction (cs : List Char) : Except ExpressionFault (Bool × List Char) := do
  let isExponent (c : Char) : Bool := c == 'e' || c == 'E'
  let isUnit (c : Char) : Bool := c == 'j' || c == 'J'
  let cs ← match cs with
    | '.' :: rest => if rest.head?.any Char.isDigit then behindDigits rest else pure rest
    | _ => pure cs
  let (cs, settled) ← match cs with
    | e :: sign :: rest =>
      if !isExponent e then pure (cs, false)
      else if sign = '+' ∨ sign = '-' then
        if rest.head?.any Char.isDigit then pure (← behindDigits rest, false)
        else throw (.malformedNumber "decimal")
      else if sign.isDigit then pure (← behindDigits (sign :: rest), false)
      else pure (cs, true)
    | _ => pure (cs, false)
  match settled, cs with
  | false, c :: rest =>
    if isUnit c then
      checkBehind "imaginary" rest
      return (true, rest)
    checkBehind "decimal" cs
    return (false, cs)
  | _, cs =>
    checkBehind "decimal" cs
    return (false, cs)

/-- Takes a number off the front: whether it is imaginary, and what follows it. -/
def splitNumber (cs : List Char) : Except ExpressionFault (Bool × List Char) := do
  let based (base : String) (isDigit : Char → Bool) (rest : List Char) :
      Except ExpressionFault (Bool × List Char) := do
    return (false, ← behindBased base isDigit rest)
  match cs with
  | '0' :: 'x' :: rest => based "hexadecimal" Text.isHexDigit rest
  | '0' :: 'X' :: rest => based "hexadecimal" Text.isHexDigit rest
  | '0' :: 'o' :: rest => based "octal" (fun c => '0' ≤ c && c ≤ '7') rest
  | '0' :: 'O' :: rest => based "octal" (fun c => '0' ≤ c && c ≤ '7') rest
  | '0' :: 'b' :: rest => based "binary" (fun c => c == '0' || c == '1') rest
  | '0' :: 'B' :: rest => based "binary" (fun c => c == '0' || c == '1') rest
  | _ => do
    let rest ← behindDigits cs
    let digits := (cs.take (cs.length - rest.length)).filter Char.isDigit
    let isWhole := rest.head?.all fun c => !".eEjJ".toList.contains c
    if isWhole && digits.any (· != '0') then
      if digits.head? = some '0' then
        throw .leadingZeros
      if Numeral.mostDigits < digits.length then
        throw (.tooManyDigits digits.length)
    behindFraction rest

/-! ### Texts -/

/-- The letters in front of a text, if one follows. -/
def textLetters? (cs : List Char) : Option (List Char) :=
  let letters := cs.takeWhile Char.isAlpha
  let allowed := ["", "b", "r", "u", "f", "br", "rb", "fr", "rf"]
  match cs.drop letters.length with
  | c :: _ =>
    if (c = '\x22' ∨ c = '\x27') ∧ String.ofList (letters.map Char.toLower) ∈ allowed then
      some letters
    else none
  | [] => none

/-- Takes the body of a text off the front, up to the closing marks, and counts lines. -/
def splitBody (quote : Char) (long : Bool) (line : Nat) :
    List Char → Except ExpressionFault (List Char × List Char × Nat)
  | [] => .error (if long then .unendedLongText line else .unendedText line)
  | '\\' :: c :: rest => do
    let line := if c = '\n' then line + 1 else line
    let (body, after, line) ← splitBody quote long line rest
    return ('\\' :: c :: body, after, line)
  | c :: rest =>
    if c = quote ∧ !long then .ok ([], rest, line)
    else if c = quote ∧ [quote, quote].isPrefixOf rest then .ok ([], rest.drop 2, line)
    else if c = '\n' ∧ !long then .error (.unendedText line)
    else do
      let line := if c = '\n' then line + 1 else line
      let (body, after, line) ← splitBody quote long line rest
      return (c :: body, after, line)

/-- Takes a text off the front, from its mark on. -/
def splitText (line : Nat) (cs : List Char) :
    Except ExpressionFault (List Char × List Char × Nat) :=
  match cs with
  | quote :: second :: third :: rest =>
    if second = quote ∧ third = quote then splitBody quote true line rest
    else splitBody quote false line (second :: third :: rest)
  | quote :: rest => splitBody quote false line rest
  | [] => .error (.unendedText line)

/-! ### Tokens one after the other -/

/-- How far an expression has been cut into tokens. -/
structure Place where
  line : Nat := 1
  /-- The parentheses that are open, with their lines, the last one first. -/
  opened : List (Char × Nat) := []
  /-- Whether nothing stands in front on the same line. -/
  fresh : Bool := true
  deriving Repr

/-- The most parentheses that may be open. -/
def mostOpened : Nat := 200

/-- The parenthesis that closes one. -/
def closing (c : Char) : Char := if c = '(' then ')' else '\x7d'

/-- Takes a token off the front that is no line end, and says where that leads. -/
def next (p : Place) (cs : List Char) : Except ExpressionFault (Token × Place × List Char) := do
  if let some letters := textLetters? cs then
    let (body, rest, line) ← splitText p.line (cs.drop letters.length)
    return (.text (letters.map Char.toLower) body, { p with line }, rest)
  if let some s := marks.find? fun s => s.toList.isPrefixOf cs then
    return (.mark s, p, cs.drop s.length)
  match cs with
  | [] =>
    match p.opened with
    | (c, _) :: _ => throw (.neverClosed c)
    | [] => return (.ended, p, [])
  | '\\' :: _ => throw .behindBackslash
  | c :: rest =>
    if beginsName c then
      let name := cs.takeWhile inName
      checkName name
      let s := String.ofList name
      return (if words.contains s then .word s else .name s, p, cs.drop name.length)
    else if c.isDigit || (c == '.' && rest.head?.any Char.isDigit) then
      let (imaginary, rest) ← if c = '.' then behindFraction cs else splitNumber cs
      return (.number imaginary, p, rest)
    else if c = '(' ∨ c = '\x7b' then
      if mostOpened ≤ p.opened.length then
        throw .tooDeep
      return (.mark c.toString, { p with opened := (c, p.line) :: p.opened }, rest)
    else if c = ')' ∨ c = '\x7d' then
      match p.opened with
      | [] => throw (.unmatched c)
      | (opening, line) :: opened =>
        if closing opening ≠ c then
          throw (.mismatched c opening (if line = p.line then none else some line))
        return (.mark c.toString, { p with opened }, rest)
    else if c.toNat < 32 ∨ c.toNat = 127 then throw (.hiddenCharacter c)
    else return (.mark c.toString, p, rest)

/-- Whether a character stands between tokens and ends no line. -/
def isSpace (c : Char) : Bool := c == ' ' || c == '\t' || c == '\x0c'

/-- Cuts an expression into tokens.  The fuel is the number of characters. -/
def scan : Nat → Place → List Char → List Lexeme
  | 0, _, _ => [{ token := .ended }]
  | fuel + 1, p, cs =>
    match cs with
    | '\n' :: rest =>
      let found := scan fuel { p with line := p.line + 1, fresh := true } rest
      if p.opened.isEmpty && !p.fresh then ⟨.lineEnd, [], p.line, false⟩ :: found else found
    | '#' :: rest => scan fuel p (rest.dropWhile (· != '\n'))
    | '\\' :: '\n' :: rest => scan fuel { p with line := p.line + 1 } rest
    | cs =>
      if cs.head?.any isSpace then
        let rest := cs.dropWhile isSpace
        let isBlank := rest.head?.all fun c => c == '\n' || c == '#'
        let found := scan fuel p rest
        if p.fresh && p.opened.isEmpty && 1 < p.line && !isBlank then
          ⟨.indent, [], p.line, false⟩ :: found
        else found
      else
        match next p cs with
        | .error fault => [⟨.broken fault, p.opened, p.line, true⟩]
        | .ok (.ended, _, _) => [⟨.lineEnd, [], p.line, true⟩, ⟨.ended, [], p.line, true⟩]
        | .ok (token, q, rest) =>
          ⟨token, q.opened, p.line, rest.isEmpty && !token.isText⟩
            :: scan fuel { q with fresh := false } rest

/-- A text with a line feed for every line end. -/
def withLineFeeds : List Char → List Char
  | '\r' :: '\n' :: rest => '\n' :: withLineFeeds rest
  | '\r' :: rest => '\n' :: withLineFeeds rest
  | c :: rest => c :: withLineFeeds rest
  | [] => []

/-- The tokens of an expression. -/
def all (cs : List Char) : List Lexeme :=
  if let some halves := Text.halves? cs then [{ token := .broken (.halves halves) }]
  else if cs.contains '\x00' then [{ token := .broken .zeroCharacter }]
  else
    let cs := withLineFeeds cs
    scan (2 * cs.length + 2) {} cs

end Token

end ComputeNodes.Markup
