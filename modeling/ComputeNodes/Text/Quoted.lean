/-
Text in quotation marks, as messages show it.

A text is put between apostrophes, or between double quotes when it holds an apostrophe and no
double quote.  Inside, a backslash and the mark in use are escaped, line feed, carriage return and
tab have escapes of their own, and every other character that cannot be shown is written by its
number: two hexadecimal digits, four or eight, whichever is the least that holds it.
-/
import ComputeNodes.Text.Printable
import ComputeNodes.Text.Surrogate

namespace ComputeNodes.Text

/-- A number in at least `width` lower-case hexadecimal digits. -/
def hex (width n : Nat) : List Char :=
  let digits := Nat.toDigits 16 n
  List.replicate (width - digits.length) '0' ++ digits

/-- The escape of a character by its number. -/
def numbered (n : Nat) : List Char :=
  if n < 0x100 then '\\' :: 'x' :: hex 2 n
  else if n < 0x10000 then '\\' :: 'u' :: hex 4 n
  else '\\' :: 'U' :: hex 8 n

/-- One character inside quotation marks. -/
def quotedChar (mark c : Char) : List Char :=
  if c = '\\' ∨ c = mark then ['\\', c]
  else if c = '\n' then ['\\', 'n']
  else if c = '\r' then ['\\', 'r']
  else if c = '\t' then ['\\', 't']
  else if isPrintable c then [c]
  else numbered (code c)

/-- The quotation mark a text is shown in. -/
def quotationMark (cs : List Char) : Char :=
  if cs.contains '\x27' && !cs.contains '\x22' then '\x22' else '\x27'

/-- A text in quotation marks. -/
def quoted (s : String) : String :=
  let cs := s.toList
  let mark := quotationMark cs
  String.ofList (mark :: cs.flatMap (quotedChar mark) ++ [mark])

/-- A text in which every character outside ASCII is written by its number. -/
def inAscii (s : String) : String :=
  String.ofList <| s.toList.flatMap fun c => if c.toNat < 128 then [c] else numbered (code c)

end ComputeNodes.Text
