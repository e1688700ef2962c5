/-
The words of a text: its longest runs of characters that are not blank.
-/
import ComputeNodes.Text.Blank

namespace ComputeNodes.Text

/-- The words of a text, behind the beginning of one. -/
def wordsFrom (begun : List Char) : List Char → List (List Char)
  | [] => if begun.isEmpty then [] else [begun.reverse]
  | c :: rest =>
    if !isBlank c then wordsFrom (c :: begun) rest
    else if begun.isEmpty then wordsFrom [] rest
    else begun.reverse :: wordsFrom [] rest

/-- The words of a text. -/
def words (cs : List Char) : List (List Char) := wordsFrom [] cs

/-- A text without the blanks around it. -/
def trim (cs : List Char) : List Char :=
  ((cs.dropWhile isBlank).reverse.dropWhile isBlank).reverse

end ComputeNodes.Text
