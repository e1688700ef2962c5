/-
Reading a settings document character by character.

A `Read` consumes characters from the front of the document or fails.  This file holds what all
readers of TOML share: the classes of characters, blanks, comments, and the repeated-digit forms
in which single underscores may stand between digits.
-/
import ComputeNodes.Number.Numeral

namespace ComputeNodes.Toml

/-- Why a document cannot be read. -/
inductive Fault where
  /-- It is not TOML. -/
  | invalid
  /-- It holds a decimal whole number of more digits than are converted. -/
  | tooManyDigits (count : Nat)
  /-- It is nested too deeply. -/
  | tooDeep
  deriving DecidableEq, Repr

/-- Reads something off the front of the document. -/
abbrev Read (α : Type) := StateT (List Char) (Except Fault) α

/-- Refuses the document. -/
def refuse {α : Type} : Read α := throw .invalid

/-- Characters that no string and no comment may hold as they are; a line feed is among them. -/
def isForbidden (c : Char) : Bool := (c.toNat < 32 && c != '\t') || c.toNat == 127

def isBlank (c : Char) : Bool := c == ' ' || c == '\t'

/-- Characters of a key without quotation marks. -/
def isBareKeyChar (c : Char) : Bool := c.isAlphanum || c == '-' || c == '_'

/-- The next character, left in place. -/
def peek? : Read (Option Char) := do return (← get).head?

/-- Whether the document goes on with a text. -/
def isAt (text : List Char) : Read Bool := do return text.isPrefixOf (← get)

/-- Passes over a number of characters. -/
def skip (count : Nat) : Read Unit := modify (·.drop count)

/-- Passes over a text if the document goes on with it. -/
def skipText? (text : List Char) : Read Bool := do
  if ← isAt text then
    skip text.length
    return true
  else return false

/-- Reads the characters up to the first that does not belong. -/
def takeWhile (belongs : Char → Bool) : Read (List Char) := do
  let cs ← get
  set (cs.dropWhile belongs)
  return cs.takeWhile belongs

def skipBlanks : Read Unit := modify (·.dropWhile isBlank)

/-- Passes over a comment, if there is one, up to the end of its line. -/
def skipComment : Read Unit := do
  if ← skipText? ['#'] then
    let text ← takeWhile (· != '\n')
    if text.any isForbidden then refuse

/-- Passes over blanks, line ends and comments.  The fuel is the number of characters left. -/
def skipLines : Nat → Read Unit
  | 0 => pure ()
  | fuel + 1 => do
    modify (·.dropWhile fun c => isBlank c || c == '\n')
    if (← peek?) == some '#' then
      skipComment
      skipLines fuel

/-- The digits at the front in which single underscores may stand between two digits, and the
rest behind them. -/
def splitDigits (belongs : Char → Bool) : List Char → List Char × List Char
  | [] => ([], [])
  | '_' :: c :: rest =>
    if belongs c then
      let (digits, after) := splitDigits belongs rest
      (c :: digits, after)
    else ([], '_' :: c :: rest)
  | c :: rest =>
    if belongs c then
      let (digits, after) := splitDigits belongs rest
      (c :: digits, after)
    else ([], c :: rest)

/-- One digit and the digits behind it; nothing when the first character is no digit. -/
def splitNumber (belongs : Char → Bool) : List Char → Option (List Char × List Char)
  | c :: rest =>
    if belongs c then
      let (digits, after) := splitDigits belongs rest
      some (c :: digits, after)
    else none
  | [] => none

end ComputeNodes.Toml
