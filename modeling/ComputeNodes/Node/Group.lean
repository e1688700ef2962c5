/-
Names shared by the nodes of a group.

A group's shared name is a fixed first part, a hyphen, and the group's own name cleaned up: in
lower case, with every run of characters other than lower-case letters, digits and hyphens
replaced by one hyphen, and without hyphens at either end.
-/
import ComputeNodes.Text.LetterCase

namespace ComputeNodes

/-- Lower-case letters, digits and hyphens: the characters that cleaning keeps. -/
def isNameChar (c : Char) : Bool := c.isLower || c.isDigit || c == '-'

/-- Replaces every run of characters that are not kept by one hyphen.  The flag tells whether the
character before was one of them. -/
def hyphenateRuns : Bool → List Char → List Char
  | _, [] => []
  | inRun, c :: rest =>
    if isNameChar c then c :: hyphenateRuns false rest
    else if inRun then hyphenateRuns true rest
    else '-' :: hyphenateRuns true rest

/-- Drops the hyphens at both ends. -/
def trimHyphens (cs : List Char) : List Char :=
  ((cs.dropWhile (· == '-')).reverse.dropWhile (· == '-')).reverse

/-- The cleaned name of a group. -/
def cleanGroup (cs : List Char) : List Char := trimHyphens (hyphenateRuns false (Text.lower cs))

/-- How shared names begin. -/
structure GroupNaming where
  lead : String := "gcenode"
  deriving DecidableEq, Repr

/-- The name shared by the nodes of a group. -/
def GroupNaming.sharedName (naming : GroupNaming) (group : String) : String :=
  naming.lead ++ "-" ++ String.ofList (cleanGroup group.toList)

end ComputeNodes
