/-
The shortest decimal that reads back as a given double.

A finite double stands for every real number that rounds to it: an interval that reaches half way
to its two neighbours, and includes its ends exactly when the mantissa is even.  `shortest` looks
on coarser and coarser — that is, from one digit to seventeen — decimal grids for a point in that
interval.  Only the two grid points next to the value need to be tried: if any point of a grid
lies in the interval, so does one of those two.  Of two points that both do, the nearer is taken,
and of two equally near the even one.
-/
import ComputeNodes.Number.Binary

namespace ComputeNodes

/-- The number `digits · 10 ^ exponent`. -/
structure Decimal where
  digits : Nat
  exponent : Int
  deriving DecidableEq, Repr

namespace Decimal

/-- Drops trailing zeros of the digits into the exponent. -/
def trim : Nat → Decimal → Decimal
  | 0, d => d
  | fuel + 1, d =>
    if d.digits ≠ 0 ∧ d.digits % 10 = 0 then trim fuel ⟨d.digits / 10, d.exponent + 1⟩ else d

/-- How many decimal digits a number has; zero has one. -/
def digitCount (n : Nat) : Nat := (Nat.toDigits 10 n).length

/-- The least `k` with `n / d < 10 ^ k`, for positive `n` and `d`. -/
def decade (n d : Nat) : Int :=
  if d ≤ n then digitCount (n / d)
  else
    let count := digitCount (d / n)
    if n * Nat.pow 10 (count - 1) = d then 2 - count else 1 - count

/-- The interval of reals that round to a double, as numerators over one denominator. -/
structure Interval where
  low : Nat
  value : Nat
  high : Nat
  denominator : Nat
  closed : Bool
  deriving Repr

/-- The interval around `mantissa · 2 ^ exponent`.  Below a power of two the doubles lie twice as
close, so there the interval reaches down only half as far. -/
def interval (mantissa : Nat) (exponent : Int) : Interval :=
  let unit := Nat.pow 2 (exponent - 2).toNat
  let down := if mantissa = Nat.pow 2 52 ∧ Binary.leastExponent < exponent then 1 else 2
  { low := (4 * mantissa - down) * unit
    value := 4 * mantissa * unit
    high := (4 * mantissa + 2) * unit
    denominator := Nat.pow 2 (2 - exponent).toNat
    closed := mantissa % 2 == 0 }

/-- The point of the grid `10 ^ grid` that lies in the interval and is nearest to its value. -/
def onGrid? (i : Interval) (grid : Int) : Option Nat :=
  let scale := Nat.pow 10 (-grid).toNat
  let step := i.denominator * Nat.pow 10 grid.toNat
  let inside (c : Nat) : Bool :=
    let point := c * step
    let (low, high) := (i.low * scale, i.high * scale)
    (low < point && point < high) || (i.closed && (point == low || point == high))
  let value := i.value * scale
  let below := value / step
  let above := below + 1
  match inside below, inside above with
  | true, false => some below
  | false, true => some above
  | false, false => none
  | true, true =>
    let (fall, rise) := (value - below * step, above * step - value)
    if fall < rise then some below
    else if rise < fall then some above
    else if below % 2 = 0 then some below else some above

/-- The shortest decimal that rounds to `mantissa · 2 ^ exponent`, for a positive mantissa. -/
def shortest (mantissa : Nat) (exponent : Int) : Decimal :=
  let i := interval mantissa exponent
  let top := decade i.value i.denominator
  let found := (List.range 17).findSome? fun (n : Nat) =>
    let grid := top - (n + 1)
    (onGrid? i grid).map fun digits => Decimal.mk digits grid
  trim 20 (found.getD ⟨0, 0⟩)

end Decimal

end ComputeNodes
