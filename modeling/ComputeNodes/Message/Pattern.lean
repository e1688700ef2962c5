/-
Messages with fields.

A pattern is text with fields in braces; a brace of the text itself is written twice.  A field

    name [! conversion] [: layout]

starts with the name of a value or with the position of one, may go on into the value by
`.feature` and `[item]` (`Message/Part.lean`), and is laid out by `Message/Layout.lean`.  Positions
may be left out, and then count up by themselves, but not in the same pattern as written ones.  A
layout may hold fields of its own, to a depth of one.

Fields are filled in from left to right, so the first fault in the pattern is the one reported.
-/
import ComputeNodes.Message.Part

namespace ComputeNodes.Message

/-- Why a pattern cannot be filled in. -/
inductive PatternFault where
  | loneOpening
  | loneClosing
  | openingInName
  | unclosedName
  | unclosedLayout
  | unclosedItem
  | noConversion
  | afterConversion
  | unknownConversion (conversion : Char)
  | tooDeep
  | manualAfterAutomatic
  | automaticAfterManual
  | emptyStep
  | badStep
  | noValue (name : String)
  | noPosition (index : Nat)
  | part (fault : PartFault)
  | layout (fault : LayoutFault)
  deriving DecidableEq, Repr

namespace PatternFault

def text : PatternFault → String
  | .loneOpening => "Single '\x7b' encountered in format string"
  | .loneClosing => "Single '\x7d' encountered in format string"
  | .openingInName => "unexpected '\x7b' in field name"
  | .unclosedName => "expected '\x7d' before end of string"
  | .unclosedLayout => "unmatched '\x7b' in format spec"
  | .unclosedItem => "Missing ']' in format string"
  | .noConversion => "end of string while looking for conversion specifier"
  | .afterConversion => "expected ':' after conversion specifier"
  | .unknownConversion c =>
    "Unknown conversion specifier "
      ++ (if 32 < c.toNat ∧ c.toNat < 127 then c.toString else numberedChar c)
  | .tooDeep => "Max string recursion exceeded"
  | .manualAfterAutomatic =>
    "cannot switch from automatic field numbering to manual field specification"
  | .automaticAfterManual =>
    "cannot switch from manual field specification to automatic field numbering"
  | .emptyStep => "Empty attribute in format string"
  | .badStep => "Only '.' or '[' may follow ']' in format field specifier"
  | .noValue name => Text.quoted name
  | .noPosition index =>
    "Replacement index " ++ toString index ++ " out of range for positional args tuple"
  | .part fault => fault.text
  | .layout fault => fault.text

end PatternFault

/-- How the positions of a pattern are given, as far as it has been read. -/
inductive Numbering where
  | unsettled
  | automatic (next : Nat)
  | manual
  deriving DecidableEq, Repr

/-- A field, taken apart. -/
structure Field where
  name : List Char
  conversion : Option Char
  layout : List Char
  /-- Whether the layout holds fields of its own. -/
  nested : Bool
  deriving Repr

namespace Field

/-- Splits off the text in front of the next field or doubled brace, and says whether a field
follows. -/
def splitText : List Char → Except PatternFault (List Char × Bool × List Char)
  | [] => .ok ([], false, [])
  | '\x7b' :: '\x7b' :: rest => .ok (['\x7b'], false, rest)
  | ['\x7b'] => .error .loneOpening
  | '\x7b' :: rest => .ok ([], true, rest)
  | '\x7d' :: '\x7d' :: rest => .ok (['\x7d'], false, rest)
  | '\x7d' :: _ => .error .loneClosing
  | c :: rest => do
    let (text, isField, after) ← splitText rest
    return (c :: text, isField, after)

/-- Splits a name off the front, with the character that ends it.  Between brackets nothing does. -/
def splitName (bracketed : Bool) : List Char → Except PatternFault (List Char × Char × List Char)
  | [] => .error .unclosedName
  | c :: rest =>
    if !bracketed && c == '\x7b' then .error .openingInName
    else if !bracketed && (c == '\x7d' || c == ':' || c == '!') then .ok ([], c, rest)
    else do
      let (name, stop, after) ← splitName (if bracketed then c != ']' else c == '[') rest
      return (c :: name, stop, after)

/-- Splits a layout off the front, up to the brace that closes the field. -/
def splitLayout (depth : Nat) : List Char → Except PatternFault (List Char × Bool × List Char)
  | [] => .error .unclosedLayout
  | c :: rest =>
    if c = '\x7d' ∧ depth = 0 then .ok ([], false, rest)
    else do
      let depth := if c = '\x7b' then depth + 1 else if c = '\x7d' then depth - 1 else depth
      let (layout, nested, after) ← splitLayout depth rest
      return (c :: layout, nested || c == '\x7b', after)

/-- Takes a field apart, from behind its opening brace. -/
def read (cs : List Char) : Except PatternFault (Field × List Char) := do
  let (name, stop, rest) ← splitName false cs
  let withLayout (conversion : Option Char) (rest : List Char) :
      Except PatternFault (Field × List Char) := do
    let (layout, nested, rest) ← splitLayout 0 rest
    return ({ name, conversion, layout, nested }, rest)
  if stop = '\x7d' then
    return ({ name, conversion := none, layout := [], nested := false }, rest)
  else if stop = ':' then withLayout none rest
  else
    match rest with
    | [] => throw .noConversion
    | [_] => throw .unclosedLayout
    | c :: after :: rest =>
      if after = '\x7d' then
        return ({ name, conversion := some c, layout := [], nested := false }, rest)
      else if after = ':' then withLayout (some c) rest
      else throw .afterConversion

end Field

/-- The number a name is, if it is one.  Its digits are counted up first, and may be too many even
if something else follows them. -/
def position? (name : List Char) : Except PatternFault (Option Nat) :=
  let digits := name.takeWhile Text.isDigit
  if Layout.largestNumber < Text.numberOf digits then .error (.layout .tooManyDigits)
  else if digits.isEmpty || digits.length < name.length then .ok none
  else .ok (some (Text.numberOf digits))

/-- What a name between brackets stands for. -/
def index (name : List Char) : Except PatternFault Index := do
  match ← position? name with
  | some n => return .position n
  | none => return .key (String.ofList name)

/-- Goes on into a part along the steps behind a field's first name.  The fuel is the number of
characters left. -/
def follow (part : Part) : Nat → List Char → Except PatternFault Part
  | 0, _ => .ok part
  | _, [] => .ok part
  | fuel + 1, '.' :: rest => do
    let inName (c : Char) : Bool := c != '.' && c != '['
    let name := rest.takeWhile inName
    if name.isEmpty then throw .emptyStep
    let next ← (part.named (String.ofList name)).mapError .part
    follow next fuel (rest.dropWhile inName)
  | fuel + 1, '[' :: rest =>
    match rest.dropWhile (· != ']') with
    | [] => .error .unclosedItem
    | _ :: after => do
      let name := rest.takeWhile (· != ']')
      if name.isEmpty then throw .emptyStep
      let next ← (part.itemAt (← index name)).mapError .part
      follow next fuel after
  | _, _ :: _ => .error .badStep

/-- What a pattern is filled in with. -/
structure Arguments where
  positional : List Value
  named : Table

/-- Finds the part that a field names, and says how positions are given from here on. -/
def Arguments.part (arguments : Arguments) (numbering : Numbering) (name : List Char) :
    Except PatternFault (Part × Numbering) := do
  let inFirst (c : Char) : Bool := c != '.' && c != '['
  let first := name.takeWhile inFirst
  let rest := name.dropWhile inFirst
  let written ← position? first
  let (index, numbering) ← match written, numbering with
    | some _, .automatic _ => throw .manualAfterAutomatic
    | some n, _ => pure (some n, Numbering.manual)
    | none, _ =>
      if first.isEmpty then
        match numbering with
        | .manual => throw .automaticAfterManual
        | .unsettled => pure (some 0, .automatic 1)
        | .automatic next => pure (some next, .automatic (next + 1))
      else pure (none, numbering)
  let value ← match index with
    | some n =>
      match arguments.positional[n]? with
      | some value => pure value
      | none => throw (.noPosition n)
    | none =>
      match arguments.named.find? (String.ofList first) with
      | some value => pure value
      | none => throw (.noValue (String.ofList first))
  let part ← follow (.value value) rest.length rest
  return (part, numbering)

/-- What a conversion makes of a part; the character with the number zero stands for none. -/
def converted (part : Part) : Option Char → Except PatternFault Part
  | none => .ok part
  | some '\x00' => .ok part
  | some 's' => .ok (.value (.text part.plain))
  | some 'r' => .ok (.value (.text part.shown))
  | some 'a' => .ok (.value (.text (Text.inAscii part.shown)))
  | some c => .error (.unknownConversion c)

/-- Fills in a pattern piece by piece, with `expand` for the layouts that hold fields.  The fuel
is the number of pieces at most. -/
def fillPieces (arguments : Arguments)
    (expand : Numbering → List Char → Except PatternFault (List Char × Numbering)) :
    Nat → Numbering → List Char → Except PatternFault (List Char × Numbering)
  | 0, numbering, _ => .ok ([], numbering)
  | fuel + 1, numbering, cs => do
    if cs.isEmpty then return ([], numbering)
    let (text, isField, rest) ← Field.splitText cs
    if isField then
      let (field, rest) ← Field.read rest
      let (part, numbering) ← arguments.part numbering field.name
      let part ← converted part field.conversion
      let (layout, numbering) ←
        if field.nested then expand numbering field.layout else pure (field.layout, numbering)
      let shown ← (part.layOut layout).mapError .layout
      let (tail, numbering) ← fillPieces arguments expand fuel numbering rest
      return (text ++ shown.toList ++ tail, numbering)
    else
      let (tail, numbering) ← fillPieces arguments expand fuel numbering rest
      return (text ++ tail, numbering)

/-- Fills in a pattern whose layouts may hold patterns down to the given depth. -/
def fillTo (arguments : Arguments) :
    Nat → Numbering → List Char → Except PatternFault (List Char × Numbering)
  | 0, _, _ => .error .tooDeep
  | depth + 1, numbering, cs =>
    fillPieces arguments (fillTo arguments depth) (cs.length + 1) numbering cs

/-- Fills in a pattern. -/
def fill (arguments : Arguments) (pattern : String) : Except PatternFault String := do
  let (filled, _) ← fillTo arguments 2 .unsettled pattern.toList
  return String.ofList filled

end ComputeNodes.Message
