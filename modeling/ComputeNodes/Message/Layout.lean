/-
Laying out one value inside a message.

A field of a message pattern may say how its value is to be laid out:

    [[fill] align] [sign] [z] [#] [0] [width] [separator] [.precision] [type]

`Layout.read` takes such a text apart and `Layout.apply` lays a value out by it.  What is allowed
depends on the value: texts take no sign and no separator, whole numbers no precision, and only
texts, truth values and numbers can be laid out at all.  An empty layout shows the value plainly.
Widths and precisions are written in decimal digits of any script.
-/
import ComputeNodes.Text.Digit
import ComputeNodes.Value

namespace ComputeNodes.Message

/-- Why a value cannot be laid out. -/
inductive LayoutFault where
  | tooManyDigits
  | bothSeparators
  | missingPrecision
  | malformed (layout typeName : String)
  | separatorWith (separator type : Char)
  | unknownType (type : Char) (typeName : String)
  | spaceOnText
  | signOnText
  | zeroOnText
  | alternateOnText
  | innerAlignmentOnText
  | precisionOnWhole
  | zeroOnWhole
  | signOnCharacter
  | alternateOnCharacter
  | notACharacter
  | tooLargeForWord
  | notLaidOut (typeName : String)
  | tooLargeForDouble
  | precisionTooBig
  /-- The text would be longer than there is room for. -/
  | outOfMemory
  deriving DecidableEq, Repr

/-- A character by its number. -/
def numberedChar (c : Char) : String :=
  String.ofList ('\\' :: 'x' :: Text.hex 1 (Text.code c))

/-- A character inside a fault's text: by its number when it is not of visible ASCII, to which the
last character of ASCII counts here. -/
def faultChar (c : Char) : String :=
  if 32 < c.toNat ∧ c.toNat < 128 then c.toString else numberedChar c

namespace LayoutFault

def text : LayoutFault → String
  | .tooManyDigits => "Too many decimal digits in format string"
  | .bothSeparators => "Cannot specify both ',' and '_'."
  | .missingPrecision => "Format specifier missing precision"
  | .malformed layout typeName =>
    "Invalid format specifier '" ++ layout ++ "' for object of type '" ++ typeName ++ "'"
  | .separatorWith separator type =>
    "Cannot specify '" ++ separator.toString ++ "' with '" ++ faultChar type ++ "'."
  | .unknownType type typeName =>
    "Unknown format code '" ++ faultChar type ++ "' for object of type '" ++ typeName ++ "'"
  | .spaceOnText => "Space not allowed in string format specifier"
  | .signOnText => "Sign not allowed in string format specifier"
  | .zeroOnText => "Negative zero coercion (z) not allowed in string format specifier"
  | .alternateOnText => "Alternate form (#) not allowed in string format specifier"
  | .innerAlignmentOnText => "'=' alignment not allowed in string format specifier"
  | .precisionOnWhole => "Precision not allowed in integer format specifier"
  | .zeroOnWhole => "Negative zero coercion (z) not allowed in integer format specifier"
  | .signOnCharacter => "Sign not allowed with integer format specifier 'c'"
  | .alternateOnCharacter => "Alternate form (#) not allowed with integer format specifier 'c'"
  | .notACharacter => "%c arg not in range(0x110000)"
  | .tooLargeForWord => "Python int too large to convert to C long"
  | .notLaidOut typeName => "unsupported format string passed to " ++ typeName ++ ".__format__"
  | .tooLargeForDouble => "int too large to convert to float"
  | .precisionTooBig => "precision too big"
  | .outOfMemory => ""

end LayoutFault

/-- Where the filling goes. -/
inductive Align where
  | left
  | right
  | center
  /-- Between the sign of a number and its digits. -/
  | inner
  deriving DecidableEq, Repr

/-- The alignment a character stands for. -/
def Align.ofChar? : Char → Option Align
  | '<' => some .left
  | '>' => some .right
  | '^' => some .center
  | '=' => some .inner
  | _ => none

/-- A layout, taken apart. -/
structure Layout where
  fill : Char
  align : Align
  sign : Option Char
  dropsNegativeZero : Bool
  alternate : Bool
  width : Nat
  separator : Option Char
  precision : Option Nat
  type : Option Char
  deriving Repr

namespace Layout

/-- The largest number a width, a precision or a position may be. -/
def largestNumber : Nat := 0x7fffffffffffffff

/-- Splits a number off the front, if there is one. -/
def splitNumber (cs : List Char) : Except LayoutFault (Option Nat × List Char) :=
  let digits := cs.takeWhile Text.isDigit
  if digits.isEmpty then .ok (none, cs)
  else if largestNumber < Text.numberOf digits then .error .tooManyDigits
  else .ok (some (Text.numberOf digits), cs.dropWhile Text.isDigit)

/-- Splits an optional mark off the front. -/
def splitMark (mark : Char) : List Char → Bool × List Char
  | c :: rest => if c = mark then (true, rest) else (false, c :: rest)
  | [] => (false, [])

/-- Splits the fill character and the alignment off the front. -/
def splitAlign (cs : List Char) : Option Char × Option Align × List Char :=
  match cs with
  | c :: d :: rest =>
    match Align.ofChar? d, Align.ofChar? c with
    | some align, _ => (some c, some align, rest)
    | none, some align => (none, some align, d :: rest)
    | none, none => (none, none, cs)
  | [c] =>
    match Align.ofChar? c with
    | some align => (none, some align, [])
    | none => (none, none, cs)
  | [] => (none, none, [])

/-- Splits the separator of thousands off the front; naming both is a fault. -/
def splitSeparator (cs : List Char) : Except LayoutFault (Option Char × List Char) :=
  match cs with
  | ',' :: '_' :: _ => .error .bothSeparators
  | '_' :: ',' :: _ => .error .bothSeparators
  | ',' :: rest => .ok (some ',', rest)
  | '_' :: rest => .ok (some '_', rest)
  | _ => .ok (none, cs)

/-- The type that stands for none at all, wherever a type may be left out. -/
def blankType : Char := '\x00'

/-- The types whose digits a separator may divide; an underscore also divides powers of two. -/
def takesSeparator (separator : Char) : Option Char → Bool
  | none => true
  | some type =>
    (blankType :: "defgEGF%".toList).contains type
      || (separator == '_' && "boxX".toList.contains type)

/-- Takes a layout apart for values of the named type, with the type that an empty one means. -/
def read (typeName : String) (numeric : Bool) (defaultType : Option Char) (cs : List Char) :
    Except LayoutFault Layout := do
  let (fill, align, rest) := splitAlign cs
  let (sign, rest) := match rest with
    | c :: tail => if c = ' ' ∨ c = '+' ∨ c = '-' then (some c, tail) else (none, rest)
    | [] => (none, rest)
  let (dropsNegativeZero, rest) := splitMark 'z' rest
  let (alternate, rest) := splitMark '#' rest
  let (zero, rest) := if fill.isNone then splitMark '0' rest else (false, rest)
  let standard := if numeric then (if zero then Align.inner else .right) else .left
  let (width, rest) ← splitNumber rest
  let (separator, rest) ← splitSeparator rest
  let (precision, rest) ← match rest with
    | '.' :: tail => do
      let (precision, rest) ← splitNumber tail
      if precision.isNone then throw .missingPrecision
      pure (precision, rest)
    | _ => pure (none, rest)
  let type ← match rest with
    | [] => pure defaultType
    | [c] => pure (some c)
    | _ => throw (.malformed (String.ofList cs) typeName)
  match separator with
  | some mark => if !takesSeparator mark type then throw (.separatorWith mark (type.getD ' '))
  | none => pure ()
  return { fill := fill.getD (if zero then '0' else ' ')
           align := align.getD standard
           sign, dropsNegativeZero, alternate, separator, precision, type
           width := width.getD 0 }

/-- The greatest width that there is room for. -/
def mostRoom : Nat := 10000000

/-- Fills a body up to the width of a layout; filling inside a number goes behind its head. -/
def fillUp (l : Layout) (head body : List Char) : Except LayoutFault String := do
  if mostRoom < l.width then throw .outOfMemory
  let missing := l.width - (head.length + body.length)
  let filling (n : Nat) := List.replicate n l.fill
  return String.ofList <| match l.align with
    | .left => head ++ body ++ filling missing
    | .right => filling missing ++ head ++ body
    | .center => filling (missing / 2) ++ head ++ body ++ filling (missing - missing / 2)
    | .inner => head ++ filling missing ++ body

/-- Divides digits, last one first, into groups, with zeros in front until `least` places are
used up.  The fuel is the number of groups at most. -/
def groupsReversed (size : Nat) (separator : Char) : Nat → List Char → Nat → List Char
  | 0, digits, _ => digits
  | fuel + 1, digits, least =>
    let count := min size (max digits.length (max least 1))
    let taken := digits.take count
    let block := taken ++ List.replicate (count - taken.length) '0'
    let rest := digits.drop count
    if rest.isEmpty && least ≤ count then block
    else block ++ separator :: groupsReversed size separator fuel rest (least - count - 1)

/-- The whole digits of a number, divided by the layout's separator and filled with zeros. -/
def grouped (l : Layout) (size least : Nat) (digits : List Char) : List Char :=
  if digits.isEmpty then []
  else match l.separator with
    | none => List.replicate (least - digits.length) '0' ++ digits
    | some separator =>
      (groupsReversed size separator (digits.length + least) digits.reverse least).reverse

/-- A number from its sign, its base mark, its whole digits and whatever follows them. -/
def number (l : Layout) (negative : Bool) (mark whole rest : List Char) (groupSize : Nat) :
    Except LayoutFault String := do
  if mostRoom < l.width then throw .outOfMemory
  let sign := if negative then ['-'] else match l.sign with
    | some '+' => ['+']
    | some ' ' => [' ']
    | _ => []
  let head := sign ++ mark
  let least := if l.fill = '0' ∧ l.align = .inner then l.width - (head.length + rest.length) else 0
  fillUp l head (grouped l groupSize least whole ++ rest)

/-- A text, cut to the precision. -/
def applyText (l : Layout) (s : String) : Except LayoutFault String := do
  match l.type with
  | some 's' => pure ()
  | other => throw (.unknownType (other.getD 's') "str")
  match l.sign with
  | some ' ' => throw .spaceOnText
  | some _ => throw .signOnText
  | none => pure ()
  if l.dropsNegativeZero then throw .zeroOnText
  if l.alternate then throw .alternateOnText
  if l.align = .inner then throw .innerAlignmentOnText
  let cs := s.toList
  fillUp l [] (match l.precision with
    | some n => cs.take n
    | none => cs)

/-- The base of a type of whole numbers, with the mark that its alternate form carries. -/
def base? : Char → Option (Nat × List Char)
  | 'b' => some (2, ['0', 'b'])
  | 'o' => some (8, ['0', 'o'])
  | 'x' => some (16, ['0', 'x'])
  | 'X' => some (16, ['0', 'X'])
  | 'd' => some (10, [])
  | 'n' => some (10, [])
  | _ => none

/-- A whole number by its digits. -/
def applyDigits (l : Layout) (base : Nat) (mark : List Char) (n : Int) :
    Except LayoutFault String := do
  if l.precision.isSome then throw .precisionOnWhole
  if l.dropsNegativeZero then throw .zeroOnWhole
  let digits := Nat.toDigits base n.natAbs
  let digits := if l.type = some 'X' then digits.map Char.toUpper else digits
  number l (n < 0) (if l.alternate then mark else []) digits [] (if base = 10 then 3 else 4)

/-- A whole number as the character it is the number of. -/
def applyCharacter (l : Layout) (n : Int) : Except LayoutFault String := do
  if l.precision.isSome then throw .precisionOnWhole
  if l.dropsNegativeZero then throw .zeroOnWhole
  if l.sign.isSome then throw .signOnCharacter
  if l.alternate then throw .alternateOnCharacter
  if n < -0x8000000000000000 ∨ 0x8000000000000000 ≤ n then throw .tooLargeForWord
  if n < 0 ∨ 0x110000 ≤ n then throw .notACharacter
  number { l with sign := none } false [] [] [Text.ofCode n.toNat] 3

/-- The parts of a double's digits: the whole ones, and the rest with point and exponent. -/
structure Spelled where
  whole : List Char
  rest : List Char
  deriving Repr

/-- Digits with a point `place` digits from the start.  The point is left out when nothing follows
it, unless it is asked for. -/
def spellPositional (digits : List Char) (place : Int) (keepsPoint : Bool) : Spelled :=
  let whole := if place ≤ 0 then ['0']
    else digits.take place.toNat ++ List.replicate (place.toNat - digits.length) '0'
  let fraction := if place ≤ 0 then List.replicate (-place).toNat '0' ++ digits
    else digits.drop place.toNat
  ⟨whole, if fraction.isEmpty && !keepsPoint then [] else '.' :: fraction⟩

/-- One digit before the point, and an exponent. -/
def spellScientific (digits : List Char) (exponent : Int) (keepsPoint : Bool) : Spelled :=
  let s := spellPositional digits 1 keepsPoint
  { s with rest := s.rest ++ (Decimal.exponentTail "e" 2 exponent).toList }

/-- Drops the zeros at the end of digits, but never the first digit. -/
def dropZeros (digits : List Char) : List Char :=
  match digits with
  | [] => []
  | first :: rest => first :: (rest.reverse.dropWhile (· == '0')).reverse

/-- A finite double rounded to so many significant digits, and its scientific exponent. -/
def rounded (count mantissa : Nat) (exponent : Int) : List Char × Int :=
  if mantissa = 0 then (List.replicate count '0', 0)
  else Binary.significant count mantissa exponent

/-- The greatest precision that digits are counted to. -/
def mostPrecision : Nat := 0x7fffffff

/-- The most significant digits that a double can have. -/
def mostSignificant : Nat := 800

/-- How many significant digits to round to.  Zeros that are dropped again are not counted out. -/
def significant (l : Layout) (precision : Nat) : Nat :=
  let count := max precision 1
  if l.alternate then count else min count mostSignificant

/-- How many digits follow the first one before an exponent.  The greatest precision is one too
many to count the first digit as well, and asks for no more than that one. -/
def exponentPrecision (precision : Nat) : Nat := if precision = mostPrecision then 0 else precision

/-- Whether a layout writes as many digits as its precision says. -/
def writesAll (l : Layout) (type : Option Char) : Bool :=
  l.alternate || type == some 'f' || type == some 'e'

/-- The digits of a finite double by the type of the layout. -/
def spell (l : Layout) (type : Option Char) (mantissa : Nat) (exponent : Int) : Spelled :=
  let precision := l.precision.getD 6
  match type with
  | some 'f' =>
    let text := (Decimal.writePlaces precision (Binary.units precision mantissa exponent)).toList
    let whole := text.takeWhile Char.isDigit
    let rest := text.dropWhile Char.isDigit
    ⟨whole, if rest.isEmpty && l.alternate then ['.'] else rest⟩
  | some 'e' =>
    let (digits, scientific) := rounded (exponentPrecision precision + 1) mantissa exponent
    spellScientific digits scientific l.alternate
  | some 'g' =>
    let (digits, scientific) := rounded (l.significant precision) mantissa exponent
    let digits := if l.alternate then digits else dropZeros digits
    if -4 ≤ scientific ∧ scientific < (max precision 1 : Nat) then
      spellPositional digits (scientific + 1) l.alternate
    else spellScientific digits scientific l.alternate
  | _ =>
    let (digits, scientific, limit) : List Char × Int × Int := match l.precision with
      | none =>
        if mantissa = 0 then (['0'], 0, 16)
        else
          let (digits, place) := (Decimal.shortest mantissa exponent).pointed
          (digits, place - 1, 16)
      | some n =>
        let (digits, scientific) := rounded (l.significant n) mantissa exponent
        (if l.alternate then digits else dropZeros digits, scientific, (max n 1 : Nat) - 1)
    if -4 ≤ scientific ∧ scientific < limit then
      let s := spellPositional digits (scientific + 1) l.alternate
      if s.rest.isEmpty || s.rest == ['.'] then { s with rest := ['.', '0'] } else s
    else spellScientific digits scientific l.alternate

/-- The types that lay out a double. -/
def isDoubleType (type : Char) : Bool := "eEfFgG%".toList.contains type

/-- A double. -/
def applyDouble (l : Layout) (x : Float) : Except LayoutFault String := do
  if mostPrecision < l.precision.getD 0 then throw .precisionTooBig
  let percent := l.type == some '%'
  let capitals := l.type == some 'E' || l.type == some 'F' || l.type == some 'G'
  let type : Option Char := match l.type with
    | some '%' => some 'f'
    | some 'n' => some 'g'
    | other => other.map Char.toLower
  let cased (cs : List Char) := if capitals then cs.map Char.toUpper else cs
  let tail := if percent then ['%'] else []
  match Binary.ofFloat (if percent then x * 100.0 else x) with
  | .notANumber => number l false [] [] (cased "nan".toList ++ tail) 3
  | .infinite negative => number l negative [] [] (cased "inf".toList ++ tail) 3
  | .finite negative mantissa exponent =>
    let asked := match l.precision with
      | some n => if type == some 'e' then exponentPrecision n else n
      | none => 0
    if mostRoom < asked && l.writesAll type then throw .outOfMemory
    let s := spell l type mantissa exponent
    let digits := s.whole ++ s.rest.takeWhile (· != 'e')
    let isZero := digits.all fun c => c == '0' || c == '.'
    number l (negative && !(l.dropsNegativeZero && isZero)) [] s.whole (cased s.rest ++ tail) 3

/-- A whole number, named as a value of the given type in faults. -/
def applyWhole (l : Layout) (typeName : String) (n : Int) : Except LayoutFault String :=
  match l.type with
  | some 'c' => applyCharacter l n
  | other =>
    let type := other.getD 'd'
    match base? type with
    | some (base, mark) => applyDigits l base mark n
    | none =>
      if isDoubleType type then
        match Binary.ofInt? n with
        | some x => applyDouble l x
        | none => .error .tooLargeForDouble
      else .error (.unknownType type typeName)

/-- Lays a value out. -/
def apply (layout : List Char) (value : Value) : Except LayoutFault String :=
  if layout.isEmpty then .ok value.plain
  else match value with
    | .text s => do
      let l ← read "str" false (some 's') layout
      l.applyText s
    | .int n => do
      let l ← read "int" true (some 'd') layout
      l.applyWhole "int" n
    | .bool b => do
      let l ← read "bool" true (some 'd') layout
      l.applyWhole "bool" (if b then 1 else 0)
    | .float x => do
      let l ← read "float" true none layout
      match l.type with
      | none => applyDouble l x
      | some type =>
        if type = blankType then applyDouble { l with type := none } x
        else if isDoubleType type || type == 'n' then applyDouble l x
        else .error (.unknownType type "float")
    | other => .error (.notLaidOut other.typeName)

end Layout

end ComputeNodes.Message
