/-
Numerals of whole numbers.

A numeral has digits of any scripts, single underscores between them, a sign in front and blanks
around it.  The blanks are those of ASCII that move the carriage, and all blanks beyond ASCII; the
separators of information are none.  A numeral has a greatest length, which counts every digit,
leading zeros too, and is looked at before what stands behind the digits.  So there are numbers that
have no numeral; they come about where a number is given in another base.
-/
import ComputeNodes.Number.Written
import ComputeNodes.Text.Blank
import ComputeNodes.Text.Digit

namespace ComputeNodes

/-- Why a text is no numeral. -/
inductive NumeralFault where
  | malformed
  | tooManyDigits (count : Nat)
  deriving DecidableEq, Repr

namespace Numeral

/-- The greatest number of digits of a numeral. -/
def mostDigits : Nat := 4300

/-- The least number that is too large for a numeral. -/
def firstWithout : Nat := Nat.pow 10 mostDigits

/-- Whether a whole number has a numeral. -/
def hasNumeral (n : Int) : Bool := n.natAbs < firstWithout

/-- Whether a character may stand around a numeral. -/
def isBlank (c : Char) : Bool := Text.isBlank c && !(28 ≤ c.toNat && c.toNat ≤ 31)

/-- Whether every underscore stands between two digits. -/
def isSpaced : List Char → Bool
  | [] => true
  | ['_'] => false
  | '_' :: '_' :: _ => false
  | _ :: rest => isSpaced rest

/-- The whole number that a numeral stands for. -/
def read (cs : List Char) : Except NumeralFault Int := do
  let (negative, body) := Decimal.splitSign ((cs.dropWhile isBlank).map Text.asciiDigit)
  let isPart (c : Char) : Bool := c.isDigit || c == '_'
  let run := body.takeWhile isPart
  let digits := run.filter Char.isDigit
  if run.head? == some '_' || !isSpaced run then throw .malformed
  if mostDigits < digits.length then throw (.tooManyDigits digits.length)
  if digits.isEmpty || !(body.dropWhile isPart).all isBlank then throw .malformed
  return Binary.signed negative (digitsValue digits)

end Numeral

end ComputeNodes
