/-
Doubles and decimals as text.

A double is written with the fewest digits that read back (`Number/Shortest.lean`), positionally
for moderate sizes and with an exponent otherwise; `Style` holds every decision that is a matter
of taste.  `fixed` and `significant` write a double to a given precision instead, rounding its
exact value.  `read?` reads a numeral back into the nearest double.
-/
import ComputeNodes.Number.Shortest

namespace ComputeNodes

/-- The choices that turn a decimal into text. -/
structure Style where
  /-- The least scientific exponent that is still written positionally. -/
  leastPositional : Int
  /-- The least scientific exponent that is written with an exponent again. -/
  leastScientific : Int
  /-- How many digits an exponent has at least. -/
  exponentDigits : Nat
  /-- What a whole number written positionally ends in. -/
  wholeTail : String

namespace Style

/-- Numbers from 0.0001 up to 10^16 are written positionally, a whole one with `.0` behind it, and
an exponent has two digits at least. -/
def plain : Style := ⟨-4, 16, 2, ".0"⟩

end Style

/-- A number written with at least `width` digits. -/
def padded (width n : Nat) : String :=
  let digits := toString n
  String.ofList (List.replicate (width - digits.length) '0') ++ digits

namespace Decimal

/-- The digits of a decimal and the place of its point, counted from the first digit. -/
def pointed (d : Decimal) : List Char × Int :=
  let digits := (toString d.digits).toList
  (digits, digits.length + d.exponent)

/-- Digits with a point put `place` digits from the start, filled up with zeros on either side. -/
def positional (digits : List Char) (place : Int) (wholeTail : String) : String :=
  if place ≤ 0 then
    "0." ++ String.ofList (List.replicate (-place).toNat '0' ++ digits)
  else if place < digits.length then
    String.ofList (digits.take place.toNat) ++ "." ++ String.ofList (digits.drop place.toNat)
  else
    String.ofList (digits ++ List.replicate (place.toNat - digits.length) '0') ++ wholeTail

/-- The part of a numeral behind its digits that scales it by a power of ten. -/
def exponentTail (mark : String) (width : Nat) (exponent : Int) : String :=
  mark ++ (if exponent < 0 then "-" else "+") ++ padded width exponent.natAbs

/-- One digit, a point, the other digits and an exponent; a single digit stands without a point. -/
def scientific (digits : List Char) (mark : String) (width : Nat) (exponent : Int) : String :=
  let whole := String.ofList (digits.take 1)
  let rest := digits.drop 1
  (if rest.isEmpty then whole else whole ++ "." ++ String.ofList rest)
    ++ exponentTail mark width exponent

/-- A positive decimal as text. -/
def write (style : Style) (d : Decimal) : String :=
  let (digits, place) := d.pointed
  let exponent := place - 1
  if style.leastPositional ≤ exponent ∧ exponent < style.leastScientific then
    positional digits place style.wholeTail
  else scientific digits "e" style.exponentDigits exponent

/-- A whole number of units of `10 ^ -places`, written with all of its places. -/
def writePlaces (places units : Nat) : String :=
  let digits := (padded (places + 1) units).toList
  if places = 0 then String.ofList digits
  else
    let whole := digits.take (digits.length - places)
    String.ofList whole ++ "." ++ String.ofList (digits.drop whole.length)

end Decimal

namespace Binary

/-- A minus sign where one is due. -/
def signText (negative : Bool) : String := if negative then "-" else ""

/-- The shortest text that reads back as the same double. -/
def text : Binary → String
  | .notANumber => "nan"
  | .infinite negative => signText negative ++ "inf"
  | .finite negative mantissa exponent =>
    signText negative ++
      if mantissa = 0 then "0.0"
      else (Decimal.shortest mantissa exponent).write .plain

/-- The magnitude of a finite double in units of `10 ^ -places`, rounded. -/
def units (places : Nat) (mantissa : Nat) (exponent : Int) : Nat :=
  let (top, bottom) := ratio mantissa exponent
  roundHalfEven (top * Nat.pow 10 places) bottom

/-- A double written with exactly `places` places behind the point. -/
def fixed (places : Nat) : Binary → String
  | .notANumber => "nan"
  | .infinite negative => signText negative ++ "inf"
  | .finite negative mantissa exponent =>
    signText negative ++ Decimal.writePlaces places (units places mantissa exponent)

/-- A positive double rounded to `count` significant digits: the digits, and the scientific
exponent of the first. -/
def significant (count : Nat) (mantissa : Nat) (exponent : Int) : List Char × Int :=
  let (top, bottom) := ratio mantissa exponent
  let place := Decimal.decade top bottom
  let grid := place - count
  let rounded := roundHalfEven (top * Nat.pow 10 (-grid).toNat) (bottom * Nat.pow 10 grid.toNat)
  let digits := (toString rounded).toList
  (digits.take count, place - 1 + (digits.length - count : Nat))

/-- The largest magnitude: everything past the largest double. -/
def infinity (negative : Bool) : Float :=
  Float.ofBits (UInt64.ofNat (2047 * Nat.pow 2 52 + if negative then Nat.pow 2 63 else 0))

/-- The double nearest to a decimal.  Decimals far outside the range of doubles are settled by
their exponent alone. -/
def ofDecimal (negative : Bool) (d : Decimal) : Float :=
  let zero := if negative then -0.0 else 0.0
  let place := d.exponent + Decimal.digitCount d.digits
  if d.digits = 0 ∨ place < -330 then zero
  else if 310 < place then infinity negative
  else
    (nearest? negative (d.digits * Nat.pow 10 d.exponent.toNat)
      (Nat.pow 10 (-d.exponent).toNat)).getD (infinity negative)

end Binary

/-- The value of a run of decimal digits. -/
def digitsValue (digits : List Char) : Nat :=
  digits.foldl (fun value c => 10 * value + (c.toNat - 48)) 0

namespace Decimal

/-- Splits a sign off the front of a numeral. -/
def splitSign : List Char → Bool × List Char
  | '-' :: rest => (true, rest)
  | '+' :: rest => (false, rest)
  | rest => (false, rest)

/-- Reads digits, an optional fraction and an optional exponent. -/
def read? (cs : List Char) : Option Decimal :=
  let whole := cs.takeWhile Char.isDigit
  let rest := cs.dropWhile Char.isDigit
  let (fraction, rest) : List Char × List Char :=
    match rest with
    | '.' :: tail => (tail.takeWhile Char.isDigit, tail.dropWhile Char.isDigit)
    | _ => ([], rest)
  let digits := digitsValue (whole ++ fraction)
  if whole.isEmpty && fraction.isEmpty then none
  else
    match rest with
    | [] => some ⟨digits, -(fraction.length : Int)⟩
    | mark :: tail =>
      let (negative, power) := splitSign tail
      if (mark == 'e' || mark == 'E') && !power.isEmpty && power.all Char.isDigit then
        let scale := Binary.signed negative (digitsValue power)
        some ⟨digits, scale - fraction.length⟩
      else none

end Decimal

namespace Binary

/-- Reads a double from a numeral, or from `inf` or `nan`, with an optional sign. -/
def read? (s : String) : Option Float :=
  let (negative, cs) := Decimal.splitSign s.toList
  if cs == "inf".toList then some (infinity negative)
  else if cs == "nan".toList then some (0.0 / 0.0)
  else (Decimal.read? cs).map (ofDecimal negative)

end Binary

/-- The shortest text of a double. -/
def doubleText (x : Float) : String := (Binary.ofFloat x).text

end ComputeNodes
