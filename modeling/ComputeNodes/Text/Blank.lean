/-
Blank characters, and texts with nothing in them.
-/

namespace ComputeNodes

/-- A text, or nothing where it is empty. -/
def nonEmpty? (s : String) : Option String := if s = "" then none else some s

namespace Text

/-- The blank characters: those of ASCII, the separators of information next to them, and the
spaces and line ends of the rest of Unicode. -/
def isBlank (c : Char) : Bool :=
  let n := c.toNat
  (9 ≤ n && n ≤ 13) || (28 ≤ n && n ≤ 32) || n == 0x85 || n == 0xa0 || n == 0x1680
    || (0x2000 ≤ n && n ≤ 0x200a) || n == 0x2028 || n == 0x2029 || n == 0x202f || n == 0x205f
    || n == 0x3000

end Text

end ComputeNodes
