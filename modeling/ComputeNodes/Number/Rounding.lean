/-
Rounding a quotient of natural numbers to the nearest whole number.

Every place where a number loses digits in this library — reading a decimal into a double,
writing a double with a fixed number of places — goes through `roundHalfEven`, so that a value
halfway between two neighbours is settled once and for all: the even neighbour wins.
-/

namespace ComputeNodes

/-- The whole number nearest to `n / d`; a quotient halfway between two goes to the even one. -/
def roundHalfEven (n d : Nat) : Nat :=
  let quotient := n / d
  let twice := 2 * (n % d)
  if twice < d then quotient
  else if d < twice then quotient + 1
  else if quotient % 2 = 0 then quotient else quotient + 1

/-- A quotient that comes out even is not changed by rounding. -/
theorem roundHalfEven_mul (q d : Nat) (hd : 0 < d) : roundHalfEven (q * d) d = q := by
  simp [roundHalfEven, Nat.mul_div_cancel _ hd, hd]

/-- Rounding moves a quotient by at most one. -/
theorem roundHalfEven_bounds (n d : Nat) :
    n / d ≤ roundHalfEven n d ∧ roundHalfEven n d ≤ n / d + 1 := by
  unfold roundHalfEven
  dsimp only
  split
  · omega
  · split
    · omega
    · split <;> omega

end ComputeNodes
