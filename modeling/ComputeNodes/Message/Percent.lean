/-
Patterns with percent signs.

A pattern is text with conversions

    % [(key)] [flags] [width] [.precision] [length] conversion

of one value; a percent sign of the text itself is written twice.  A conversion with a key takes
an item of the value; the first one without a key takes the value itself, and a second one finds
nothing left.  A value that is not taken at all is a fault unless it has items.  A width or a
precision may be a star, which takes a value as well.

Conversions are filled in from left to right, so the first fault is the one reported.
-/
import ComputeNodes.Message.Part
import ComputeNodes.Value.Whole

namespace ComputeNodes.Message

/-- Why a pattern with percent signs cannot be filled in. -/
inductive PercentFault where
  | incompleteKey
  | incomplete
  | needsItems
  | nothingLeft
  | leftOver
  | starNotWhole
  | starTooLarge (word : String)
  | widthTooBig
  | precisionTooBig
  | precisionTooLarge
  | unknownConversion (conversion : Char) (index : Nat)
  | notNumber (conversion : Char) (typeName : String)
  | notWhole (conversion : Char) (typeName : String)
  | notReal (typeName : String)
  | notCharacter
  | part (fault : PartFault)
  | whole (fault : WholeFault)
  | layout (fault : LayoutFault)
  deriving DecidableEq, Repr

namespace PercentFault

def text : PercentFault → String
  | .incompleteKey => "incomplete format key"
  | .incomplete => "incomplete format"
  | .needsItems => "format requires a mapping"
  | .nothingLeft => "not enough arguments for format string"
  | .leftOver => "not all arguments converted during string formatting"
  | .starNotWhole => "* wants int"
  | .starTooLarge word => "Python int too large to convert to C " ++ word
  | .widthTooBig => "width too big"
  | .precisionTooBig => "precision too big"
  | .precisionTooLarge => "precision too large"
  | .unknownConversion c index =>
    let shown := if 31 ≤ c.toNat ∧ c.toNat ≤ 126 then c else '?'
    "unsupported format character '" ++ shown.toString ++ "' (0x"
      ++ String.ofList (Text.hex 1 (Text.code c)) ++ ") at index " ++ toString index
  | .notNumber c typeName =>
    "%" ++ c.toString ++ " format: a real number is required, not " ++ typeName
  | .notWhole c typeName =>
    "%" ++ c.toString ++ " format: an integer is required, not " ++ typeName
  | .notReal typeName => "must be real number, not " ++ typeName
  | .notCharacter => "%c requires int or char"
  | .part fault => fault.text
  | .whole fault => fault.text
  | .layout fault => fault.text

end PercentFault

/-- The value of a pattern, as far as it has been taken. -/
structure Supply where
  /-- The value that keys are looked up in, if it has items. -/
  items : Option Value
  current : Value
  taken : Bool := false

namespace Supply

/-- Whether keys can be looked up in a value. -/
def hasItems : Value → Bool
  | .list _ => true
  | .table _ => true
  | _ => false

def ofValue (v : Value) : Supply := { items := if hasItems v then some v else none, current := v }

/-- Takes the next value. -/
def next (s : Supply) : Except PercentFault (Value × Supply) :=
  if s.taken then .error .nothingLeft else .ok (s.current, { s with taken := true })

/-- Goes over to an item. -/
def lookUp (s : Supply) (key : String) : Except PercentFault Supply :=
  match s.items with
  | none => .error .needsItems
  | some v => (Part.itemOfValue v (.key key)).mapError .part |>.map fun item =>
    { s with current := item, taken := false }

end Supply

/-- A conversion, taken apart. -/
structure Conversion where
  flags : List Char
  width : Nat
  precision : Option Nat
  kind : Char
  deriving Repr

namespace Conversion

def has (c : Conversion) (flag : Char) : Bool := c.flags.contains flag

/-- The greatest precision that is written in digits. -/
def mostPrecision : Nat := 0x7fffffff

/-- Splits a key in parentheses off, from behind the opening one. -/
def splitKey : Nat → List Char → Except PercentFault (List Char × List Char)
  | _, [] => .error .incompleteKey
  | depth, c :: rest =>
    if c = ')' ∧ depth = 0 then .ok ([], rest)
    else do
      let depth := if c = '(' then depth + 1 else if c = ')' then depth - 1 else depth
      let (key, rest) ← splitKey depth rest
      return (c :: key, rest)

/-- The whole number that a star takes. -/
def star (s : Supply) : Except PercentFault (Int × Supply) := do
  let (v, s) ← s.next
  match v with
  | .int n => return (n, s)
  | .bool b => return (if b then 1 else 0, s)
  | _ => throw .starNotWhole

/-- Splits a width off the front; a negative one also puts the text to the left. -/
def splitWidth (s : Supply) (flags cs : List Char) :
    Except PercentFault (Nat × List Char × List Char × Supply) := do
  match cs with
  | '*' :: rest =>
    let (n, s) ← star s
    if n < -0x8000000000000000 ∨ 0x8000000000000000 ≤ n then throw (.starTooLarge "ssize_t")
    return (n.natAbs, if n < 0 then '-' :: flags else flags, rest, s)
  | _ =>
    let digits := cs.takeWhile Char.isDigit
    if Layout.largestNumber < digitsValue digits then throw .widthTooBig
    return (digitsValue digits, flags, cs.dropWhile Char.isDigit, s)

/-- Splits a precision off the front; a point without digits stands for zero. -/
def splitPrecision (s : Supply) (cs : List Char) :
    Except PercentFault (Option Nat × List Char × Supply) := do
  match cs with
  | '.' :: '*' :: rest =>
    let (n, s) ← star s
    if n < -0x80000000 ∨ 0x80000000 ≤ n then throw (.starTooLarge "int")
    return (some n.toNat, rest, s)
  | '.' :: rest =>
    let digits := rest.takeWhile Char.isDigit
    if mostPrecision < digitsValue digits then throw .precisionTooBig
    return (some (digitsValue digits), rest.dropWhile Char.isDigit, s)
  | _ => return (none, cs, s)

/-- Takes a conversion apart, from behind its percent sign. -/
def read (s : Supply) (cs : List Char) :
    Except PercentFault (Conversion × List Char × Supply) := do
  let (s, cs) ← match cs with
    | '(' :: rest => do
      if s.items.isNone then throw .needsItems
      let (key, rest) ← splitKey 0 rest
      pure (← s.lookUp (String.ofList key), rest)
    | _ => pure (s, cs)
  let isFlag (c : Char) : Bool := "-+ #0".toList.contains c
  let (width, flags, rest, s) ← splitWidth s (cs.takeWhile isFlag) (cs.dropWhile isFlag)
  let (precision, rest, s) ← splitPrecision s rest
  let rest := match rest with
    | c :: tail => if c = 'h' ∨ c = 'l' ∨ c = 'L' then tail else rest
    | [] => []
  match rest with
  | [] => throw .incomplete
  | kind :: rest => return ({ flags, width, precision, kind }, rest, s)

/-- Fills a text up to the width.  A number keeps its sign, and its base mark, in front of zeros
that fill it up. -/
def fillUp (c : Conversion) (numeric : Bool) (text : List Char) :
    Except PercentFault (List Char) := do
  if Layout.mostRoom < c.width then throw (.layout .outOfMemory)
  let (sign, text) : List Char × List Char :=
    if !numeric then ([], text)
    else match text with
      | '-' :: rest => (['-'], rest)
      | _ => (if c.has '+' then ['+'] else if c.has ' ' then [' '] else [], text)
  let markLength := if c.has '#' && "xXo".toList.contains c.kind then 2 else 0
  let head := sign ++ text.take markLength
  let body := text.drop markLength
  let missing (filling : Char) : List Char :=
    List.replicate (c.width - (head.length + body.length)) filling
  return (
    if c.has '-' then head ++ body ++ missing ' '
    else if numeric && c.has '0' then head ++ missing '0' ++ body
    else missing ' ' ++ head ++ body)

/-- A whole number in a base, with as many digits as the precision asks for. -/
def digits (c : Conversion) (n : Int) : Except PercentFault (List Char) := do
  let precision := c.precision.getD 0
  if mostPrecision - 3 < precision then throw .precisionTooLarge
  if Layout.mostRoom < precision then throw (.layout .outOfMemory)
  let (base, mark) := (Layout.base? c.kind).getD (10, [])
  let digits := Nat.toDigits base n.natAbs
  let digits := if c.kind = 'X' then digits.map Char.toUpper else digits
  let zeros := List.replicate (precision - digits.length) '0'
  return (if n < 0 then ['-'] else []) ++ (if c.has '#' then mark else []) ++ zeros ++ digits

/-- The whole number that a value stands for in a conversion. -/
def wholeOf (c : Conversion) (v : Value) : Except PercentFault Int :=
  let inBase := "oxX".toList.contains c.kind
  match v with
  | .int n => .ok n
  | .bool b => .ok (if b then 1 else 0)
  | .float _ =>
    if inBase then .error (.notWhole c.kind v.typeName) else v.whole.mapError .whole
  | _ =>
    .error (if inBase then .notWhole c.kind v.typeName else .notNumber c.kind v.typeName)

/-- The double that a value stands for. -/
def doubleOf (v : Value) : Except PercentFault Float :=
  match v with
  | .float x => .ok x
  | _ =>
    match Part.whole? v with
    | none => .error (.notReal v.typeName)
    | some n =>
      match Binary.ofInt? n with
      | some x => .ok x
      | none => .error (.layout .tooLargeForDouble)

/-- The character that a value stands for. -/
def characterOf (v : Value) : Except PercentFault Char :=
  match v with
  | .text s =>
    match s.toList with
    | [c] => .ok c
    | _ => .error .notCharacter
  | _ =>
    match Part.whole? v with
    | none => .error .notCharacter
    | some n =>
      if n < 0 ∨ 0x110000 ≤ n then .error (.layout .notACharacter) else .ok (Text.ofCode n.toNat)

/-- Converts a value; `index` is where the conversion ends in the pattern. -/
def apply (c : Conversion) (index : Nat) (v : Value) : Except PercentFault (List Char) := do
  let cut (s : String) : List Char := s.toList.take (c.precision.getD s.length)
  if c.kind = 's' then c.fillUp false (cut v.plain)
  else if c.kind = 'r' then c.fillUp false (cut v.shown)
  else if c.kind = 'a' then c.fillUp false (cut (Text.inAscii v.shown))
  else if "diuoxX".toList.contains c.kind then
    c.fillUp true (← c.digits (← c.wholeOf v))
  else if "eEfFgG".toList.contains c.kind then
    let layout : Layout :=
      { fill := ' ', align := .right, sign := none, dropsNegativeZero := false,
        alternate := c.has '#', width := 0, separator := none,
        precision := some (c.precision.getD 6), type := some c.kind }
    let text ← (layout.applyDouble (← doubleOf v)).mapError .layout
    c.fillUp true text.toList
  else if c.kind = 'c' then c.fillUp false [← characterOf v]
  else throw (.unknownConversion c.kind index)

end Conversion

namespace Percent

/-- Fills in a pattern from the front.  The fuel is the number of characters left at most, and
`length` that of the whole pattern. -/
def fillFrom (length : Nat) : Nat → Supply → List Char → Except PercentFault (List Char × Supply)
  | 0, s, _ => .ok ([], s)
  | _, s, [] => .ok ([], s)
  | fuel + 1, s, '%' :: '%' :: cs => do
    let (tail, s) ← fillFrom length fuel s cs
    return ('%' :: tail, s)
  | fuel + 1, s, '%' :: cs => do
    let (conversion, rest, s) ← Conversion.read s cs
    let (v, s) ← s.next
    let text ← conversion.apply (length - rest.length - 1) v
    let (tail, s) ← fillFrom length fuel s rest
    return (text ++ tail, s)
  | fuel + 1, s, c :: cs => do
    let (tail, s) ← fillFrom length fuel s cs
    return (c :: tail, s)

/-- Fills in a pattern with a value. -/
def fill (pattern : String) (v : Value) : Except PercentFault String := do
  let cs := pattern.toList
  let (filled, s) ← fillFrom cs.length cs.length (.ofValue v) cs
  if !s.taken && s.items.isNone then throw .leftOver
  return String.ofList filled

end Percent

end ComputeNodes.Message
