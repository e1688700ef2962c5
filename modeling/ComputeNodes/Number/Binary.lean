/-
Doubles as exact numbers.

A finite double is `mantissa · 2 ^ exponent` with a sign, and everything this library needs to
know exactly about one — how it compares with a whole number, which digits it has, which whole
number it truncates to — is asked of those three parts.  `Binary.ofFloat` takes a double apart and
`nearest?` goes the other way: it finds the double closest to a quotient, halves going to the even
mantissa.
-/
import ComputeNodes.Number.Rounding

namespace ComputeNodes

/-- What a double stands for. -/
inductive Binary where
  | notANumber
  | infinite (negative : Bool)
  | finite (negative : Bool) (mantissa : Nat) (exponent : Int)
  deriving DecidableEq, Repr

namespace Binary

/-- The exponent of the smallest positive double. -/
def leastExponent : Int := -1074

/-- The parts of a double: eleven bits of exponent, fifty-two of fraction. -/
def ofFloat (x : Float) : Binary :=
  let bits := x.toBits.toNat
  let negative := bits / Nat.pow 2 63 == 1
  let field : Nat := bits / Nat.pow 2 52 % Nat.pow 2 11
  let fraction := bits % Nat.pow 2 52
  if field = 2047 then
    if fraction = 0 then .infinite negative else .notANumber
  else if field = 0 then .finite negative fraction leastExponent
  else .finite negative (Nat.pow 2 52 + fraction) ((field : Int) - 1075)

/-- The numerator and denominator of `mantissa · 2 ^ exponent`. -/
def ratio (mantissa : Nat) (exponent : Int) : Nat × Nat :=
  (mantissa * Nat.pow 2 exponent.toNat, Nat.pow 2 (-exponent).toNat)

/-- The bits of the double nearest to `n / d`, without a sign; `none` past the largest double.

The first guess of the exponent leaves a mantissa of fifty-three or fifty-four bits, and in the
second case one more is shifted out.  A mantissa that rounds up to `2 ^ 53` carries into the
exponent by itself, as does the largest subnormal. -/
def magnitudeBits? (n d : Nat) : Option Nat :=
  if n = 0 then some 0
  else
    let guess := max leastExponent ((n.log2 : Int) - d.log2 - 53)
    let scaled (e : Int) : Nat × Nat := (n * Nat.pow 2 (-e).toNat, d * Nat.pow 2 e.toNat)
    let (high, low) := scaled guess
    let exponent := if Nat.pow 2 53 ≤ high / low then guess + 1 else guess
    let (top, bottom) := scaled exponent
    let bits := (exponent + 1074).toNat * Nat.pow 2 52 + roundHalfEven top bottom
    if 2047 * Nat.pow 2 52 ≤ bits then none else some bits

/-- The double nearest to `n / d` with the given sign; `none` past the largest double. -/
def nearest? (negative : Bool) (n d : Nat) : Option Float :=
  (magnitudeBits? n d).map fun bits =>
    Float.ofBits (UInt64.ofNat (if negative then Nat.pow 2 63 + bits else bits))

/-- The double nearest to a whole number; `none` when the number is too large for one. -/
def ofInt? (n : Int) : Option Float := nearest? (n < 0) n.natAbs 1

/-- The sign put on a magnitude. -/
def signed (negative : Bool) (n : Nat) : Int := if negative then -n else n

/-- Whether a whole number is at most a double, with no rounding on either side. -/
def intLe (n : Int) (x : Float) : Bool :=
  match ofFloat x with
  | .notANumber => false
  | .infinite negative => !negative
  | .finite negative mantissa exponent =>
    let (top, bottom) := ratio mantissa exponent
    n * bottom ≤ signed negative top

/-- The whole part of a double, towards zero; `none` for infinities and for not-a-number. -/
def truncate? (x : Float) : Option Int :=
  match ofFloat x with
  | .finite negative mantissa exponent =>
    let (top, bottom) := ratio mantissa exponent
    some (signed negative (top / bottom))
  | _ => none

end Binary

end ComputeNodes
