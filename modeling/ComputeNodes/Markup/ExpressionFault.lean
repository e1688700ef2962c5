/-
Faults of expressions, and how they are said.
-/
import ComputeNodes.Error.Fault
import ComputeNodes.Text.Quoted

namespace ComputeNodes.Markup

/-- What is wrong with an expression. -/
inductive ExpressionFault where
  | unmatched (closing : Char)
  | mismatched (closing opening : Char) (line : Option Nat)
  | neverClosed (opening : Char)
  | tooDeep
  | malformedNumber (base : String)
  | foreignDigit (digit : Char) (base : String)
  | leadingZeros
  | tooManyDigits (count : Nat)
  | unendedText (line : Nat)
  | unendedLongText (line : Nat)
  | behindBackslash
  | foreignCharacter (c : Char)
  | hiddenCharacter (c : Char)
  | zeroCharacter
  | halves (found : Text.Halves)
  | indented
  | unexpected
  | missingComma
  | missingElse
  | missingDefault
  | groupedParameters
  | missingParentheses (name : String)
  | bareStar
  | starredAlone
  | doublyStarredAlone
  | starredInComprehension
  | tableInComprehension
  | missingTargetParentheses
  | starredEntry
  | missingEntry
  | missingColon
  | namedLike (description : String)
  | assignedName
  | assignedLike (description : String)
  | assignedArgument
  | target (description : String)
  | positionalBehindNamed
  | positionalBehindTable
  | starBehindTable
  | bareGenerator
  | bytesBeyondAscii
  | mixedTexts
  | cutEscape (first last : Nat) (shape : String)
  | cutName (first last : Nat)
  | noSuchCharacter (first last : Nat)
  | cutByteEscape (place : Nat)
  /-- The expression inside a text is at fault. -/
  | interpolated (fault : ExpressionFault)
  | loneBrace
  | missingBrace
  | tooNested
  | innerBackslash
  | innerComment
  | noInner
  | noInnerBefore (mark : Char)
  | unknownConversion
  | unendedInner
  | unmatchedInner (parenthesis : Char)
  | mismatchedInner (closing opening : Char)
  | tooDeepInner
  deriving DecidableEq, Repr

namespace ExpressionFault

/-- Whether the fault goes unnoticed where another one comes first. -/
def isSoft : ExpressionFault → Bool
  | .neverClosed _ => true
  | .behindBackslash => true
  | _ => false

/-- Whether a fault of tokens is the same one wherever the expression stands. -/
def isOfToken : ExpressionFault → Bool
  | .unmatched _ => true
  | .mismatched .. => true
  | .tooDeep => true
  | .malformedNumber _ => true
  | .foreignDigit .. => true
  | .leadingZeros => true
  | .unendedText _ => true
  | .unendedLongText _ => true
  | .foreignCharacter _ => true
  | .hiddenCharacter _ => true
  | _ => false

/-- A character by its number, in four digits or more. -/
def number (c : Char) : String :=
  "U+" ++ String.ofList ((Text.hex 4 c.toNat).map Char.toUpper)

/-- What is said of an escape in a text. -/
def escape (first last : Nat) (reason : String) : String :=
  "(unicode error) 'unicodeescape' codec can't decode bytes in position " ++ toString first ++ "-"
    ++ toString last ++ ": " ++ reason

def text : ExpressionFault → String
  | .unmatched c => "unmatched '" ++ c.toString ++ "'"
  | .mismatched closing opening line =>
    "closing parenthesis '" ++ closing.toString ++ "' does not match opening parenthesis '"
      ++ opening.toString ++ "'" ++ line.elim "" fun n => " on line " ++ toString n
  | .neverClosed c => "'" ++ c.toString ++ "' was never closed"
  | .tooDeep => "too many nested parentheses"
  | .malformedNumber base => "invalid " ++ base ++ " literal"
  | .foreignDigit c base => "invalid digit '" ++ c.toString ++ "' in " ++ base ++ " literal"
  | .leadingZeros =>
    "leading zeros in decimal integer literals are not permitted; use an 0o prefix for octal "
      ++ "integers"
  | .tooManyDigits count =>
    excessText count
      ++ " - Consider hexadecimal for huge integer literals to avoid decimal conversion limits."
  | .unendedText line => "unterminated string literal (detected at line " ++ toString line ++ ")"
  | .unendedLongText line =>
    "unterminated triple-quoted string literal (detected at line " ++ toString line ++ ")"
  | .behindBackslash => "unexpected character after line continuation character"
  | .foreignCharacter c => "invalid character '" ++ c.toString ++ "' (" ++ number c ++ ")"
  | .hiddenCharacter c => "invalid non-printable character " ++ number c
  | .zeroCharacter => "source code string cannot contain null bytes"
  | .halves found => halvesText found
  | .indented => "unexpected indent"
  | .unexpected => "invalid syntax"
  | .missingComma => "invalid syntax. Perhaps you forgot a comma?"
  | .groupedParameters => "Lambda expression parameters cannot be parenthesized"
  | .missingDefault => "expected default value expression"
  | .missingElse => "expected 'else' after 'if' expression"
  | .missingParentheses name =>
    "Missing parentheses in call to '" ++ name ++ "'. Did you mean " ++ name ++ "(...)?"
  | .bareStar => "Invalid star expression"
  | .starredAlone => "cannot use starred expression here"
  | .doublyStarredAlone => "cannot use double starred expression here"
  | .starredInComprehension => "iterable unpacking cannot be used in comprehension"
  | .tableInComprehension => "dict unpacking cannot be used in dict comprehension"
  | .missingTargetParentheses => "did you forget parentheses around the comprehension target?"
  | .starredEntry => "cannot use a starred expression in a dictionary value"
  | .missingEntry => "expression expected after dictionary key and ':'"
  | .missingColon => "':' expected after dictionary key"
  | .namedLike description => "cannot use assignment expressions with " ++ description
  | .assignedName => "invalid syntax. Maybe you meant '==' or ':=' instead of '='?"
  | .assignedLike description =>
    "cannot assign to " ++ description ++ " here. Maybe you meant '==' instead of '='?"
  | .assignedArgument =>
    "expression cannot contain assignment, perhaps you meant \x22==\x22?"
  | .target description => "cannot assign to " ++ description
  | .positionalBehindNamed => "positional argument follows keyword argument"
  | .positionalBehindTable => "positional argument follows keyword argument unpacking"
  | .starBehindTable => "iterable argument unpacking follows keyword argument unpacking"
  | .bareGenerator => "Generator expression must be parenthesized"
  | .bytesBeyondAscii => "bytes can only contain ASCII literal characters"
  | .mixedTexts => "cannot mix bytes and nonbytes literals"
  | .cutEscape first last shape => escape first last ("truncated \\" ++ shape ++ " escape")
  | .cutName first last => escape first last "malformed \\N character escape"
  | .noSuchCharacter first last => escape first last "illegal Unicode character"
  | .interpolated fault => "f-string: " ++ fault.text
  | .loneBrace => "f-string: single '\x7d' is not allowed"
  | .missingBrace => "f-string: expecting '\x7d'"
  | .tooNested => "f-string: expressions nested too deeply"
  | .innerBackslash => "f-string expression part cannot include a backslash"
  | .innerComment => "f-string expression part cannot include '#'"
  | .noInner => "f-string: empty expression not allowed"
  | .noInnerBefore c => "f-string: expression required before '" ++ c.toString ++ "'"
  | .unknownConversion => "f-string: invalid conversion character: expected 's', 'r', or 'a'"
  | .unendedInner => "f-string: unterminated string"
  | .unmatchedInner c => "f-string: unmatched '" ++ c.toString ++ "'"
  | .mismatchedInner closing opening =>
    "f-string: closing parenthesis '" ++ closing.toString
      ++ "' does not match opening parenthesis '" ++ opening.toString ++ "'"
  | .tooDeepInner => "f-string: too many nested parenthesis"
  | .cutByteEscape place => "(value error) invalid \\x escape at position " ++ toString place

/-- Whether the characters of a text are at fault, before any expression is read. -/
def isOfCharacters : ExpressionFault → Bool
  | .zeroCharacter => true
  | .halves _ => true
  | _ => false

end ExpressionFault

end ComputeNodes.Markup
