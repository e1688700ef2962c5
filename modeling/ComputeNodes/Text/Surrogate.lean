/-
Halves of surrogate pairs.

Every code point is a character but for those that stand in pairs for the characters beyond the
first 65,536.  Where a half of such a pair is met alone, a text holds a private character in its
place, the one whose number is larger by `standInShift`.  So texts keep all that they were given:
`code_ofCode` says that the code point can be told from the character that is there for it.
-/

namespace ComputeNodes.Text

/-- Whether a code point is the first half of a pair. -/
def isFirstHalf (n : Nat) : Bool := 0xd800 ≤ n && n < 0xdc00

/-- Whether a code point is the second half of a pair. -/
def isSecondHalf (n : Nat) : Bool := 0xdc00 ≤ n && n < 0xe000

/-- Whether a code point is no character. -/
def isHalf (n : Nat) : Bool := isFirstHalf n || isSecondHalf n

/-- How far the characters that stand in for halves are behind them. -/
def standInShift : Nat := 0x100000

/-- Whether a character stands in for a half. -/
def standsIn (c : Char) : Bool := isHalf (c.toNat - standInShift)

/-- The code point that a character is there for. -/
def code (c : Char) : Nat := if standsIn c then c.toNat - standInShift else c.toNat

/-- The character that is there for a code point. -/
def ofCode (n : Nat) : Char := Char.ofNat (if isHalf n then n + standInShift else n)

/-- A character is there for the code point it was made for, unless that is a stand-in itself. -/
theorem code_ofCode {n : Nat} (bound : n < 0x110000) (free : isHalf (n - standInShift) = false) :
    code (ofCode n) = n := by
  have toNat_ofNat {k : Nat} (valid : k.isValidChar) : (Char.ofNat k).toNat = k := by
    rw [Char.ofNat, dif_pos valid]
    rfl
  unfold code ofCode standsIn
  cases half : isHalf n with
  | true =>
    simp only [isHalf, isFirstHalf, isSecondHalf, Bool.or_eq_true, Bool.and_eq_true,
      decide_eq_true_eq] at half
    rw [if_pos rfl, toNat_ofNat (by unfold standInShift; right; omega), Nat.add_sub_cancel]
    simp only [isHalf, isFirstHalf, isSecondHalf]
    grind
  | false =>
    have valid : n.isValidChar := by
      simp only [isHalf, isFirstHalf, isSecondHalf, Bool.or_eq_false_iff, Bool.and_eq_false_iff,
        decide_eq_false_iff_not] at half
      unfold Nat.isValidChar
      omega
    simp [toNat_ofNat valid, free]

/-- Halves in a text, which has no bytes because of them. -/
structure Halves where
  /-- How many characters are in front of them. -/
  place : Nat
  /-- The first one and those right behind it. -/
  characters : List Char
  deriving DecidableEq, Repr

/-- The first halves in a text. -/
def halves? (cs : List Char) : Option Halves :=
  (cs.findIdx? standsIn).map fun place => ⟨place, (cs.drop place).takeWhile standsIn⟩

theorem halves?_append_eq_none_iff {front back : List Char} :
    halves? (front ++ back) = none ↔ halves? front = none ∧ halves? back = none := by
  simp only [halves?, Option.map_eq_none_iff, List.findIdx?_eq_none_iff, List.forall_mem_append]

/-- Whether a text is not behind another one in the order of their code points. -/
def inOrder (s t : String) : Bool := !(t.toList.map code).lex (s.toList.map code) (· < ·)

end ComputeNodes.Text
