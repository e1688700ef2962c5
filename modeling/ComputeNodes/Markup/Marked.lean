/-
Marked-up text.

A tag opens a stretch of text, and a tag with a slash closes one: the last open one, or the last one
of the same style where it names a style.  The stretch is shown in that style, unless the tag is an
action, which has an at sign in front: then what follows its equals sign is written out as a value,
and may be called with one.

What is not there cannot be closed.  Colours whose parts are no numbers are met twice: in the name
of a tag at once, and behind its equals sign only when the stretch is shown, so that nothing is
shown then (`Marked.isShown`).
-/
import ComputeNodes.Markup.Literal
import ComputeNodes.Markup.Style
import ComputeNodes.Markup.Tag

namespace ComputeNodes.Markup

/-- What is wrong with marked-up text. -/
inductive MarkupFault where
  | nothingToClose (position : Nat)
  | notOpen (tag : Tag) (position : Nat)
  /-- An action takes what is no value; `parameters` is all that stands behind its equals sign. -/
  | action (taken parameters : List Char) (fault : LiteralFault)
  /-- A part of a colour is no number. -/
  | color (fault : WholeFault)
  deriving DecidableEq, Repr

namespace MarkupFault

def text : MarkupFault → String
  | .nothingToClose position =>
    "closing tag '[/]' at position " ++ toString position ++ " has nothing to close"
  | .notOpen tag position =>
    "closing tag '[" ++ String.ofList tag.body ++ "]' at position " ++ toString position
      ++ " doesn't match any open tag"
  | .action taken parameters fault =>
    let whole := Text.quoted (String.ofList parameters)
    let place := if fault.isSyntax then Text.quoted (String.ofList taken) ++ " in " ++ whole
      else whole
    "error parsing " ++ place ++ "; " ++ fault.text
  | .color fault => fault.text

end MarkupFault

/-- A stretch of text, and the style that it is shown in. -/
structure Span where
  first : Nat
  /-- The end of the stretch, which it does not hold. -/
  last : Nat
  style : List Char
  deriving DecidableEq, Repr

/-- Text and the stretches of it that are marked. -/
structure Marked where
  text : List Char := []
  spans : List Span := []
  deriving Repr

/-- A tag that is open: where it was opened, its style in normal form, and what is behind its equals
sign. -/
structure OpenTag where
  first : Nat
  style : String
  parameters : Option (List Char)
  deriving Repr

namespace OpenTag

/-- Whether the tag is an action. -/
def isAction (tag : OpenTag) : Bool := tag.style.toList.head? == some '@'

/-- The style of the stretch. -/
def shownStyle (tag : OpenTag) : List Char :=
  tag.style.toList ++ tag.parameters.elim [] (' ' :: ·)

/-- Whether a character may be in the name of what is called. -/
def inActionName (c : Char) : Bool := Text.isAlphanumeric c || c == '_' || c == '.'

/-- The value of an action as it is written: a name alone is called with nothing, and a name in
front of a parenthesis is called with what the parentheses hold. -/
def taken (parameters : List Char) : List Char :=
  let cs := Text.trim parameters
  match cs.dropWhile inActionName with
  | [] => ['(', ')']
  | '(' :: rest =>
    if rest.getLast? == some ')' && !rest.contains '\n' then '(' :: rest else cs
  | _ => cs

/-- Checks what an action takes. -/
def checkAction (parameters : List Char) : Except MarkupFault Unit :=
  let taken := taken parameters
  (Literal.check (taken.dropWhile fun c => c == ' ' || c == '\t')).mapError
    (.action taken parameters)

/-- The stretch of a tag that is closed at a place of the text. -/
def close (tag : OpenTag) (last : Nat) : Except MarkupFault (List Span) :=
  if tag.isAction then
    match tag.parameters with
    | some (c :: cs) => do
      checkAction (c :: cs)
      return []
    | _ => .ok []
  else .ok [⟨tag.first, last, tag.shownStyle⟩]

end OpenTag

namespace Marked

/-- Whether a character is left out of a text that is shown. -/
def isDropped (c : Char) : Bool :=
  c == '\x07' || c == '\x08' || c == '\x0b' || c == '\x0c' || c == '\x0d'

/-- The normal form of a style. -/
def normalForm (style : List Char) : Except MarkupFault String :=
  (Style.normalize style).mapError .color

/-- Takes the last open tag that a closing one closes; the last one that is open comes first. -/
def closed (tag : Tag) (position : Nat) (opened : List OpenTag) :
    Except MarkupFault (OpenTag × List OpenTag) := do
  let style := Text.trim (tag.name.drop 1)
  if style.isEmpty then
    match opened with
    | last :: rest => return (last, rest)
    | [] => throw (.nothingToClose position)
  let style ← normalForm style
  match opened.find? (·.style == style) with
  | some found => return (found, opened.eraseP (·.style == style))
  | none => throw (.notOpen tag position)

/-- Puts pieces behind a text in which tags are open. -/
def extend (marked : Marked) (opened : List OpenTag) : List Piece → Except MarkupFault Marked
  | [] =>
    let spans := opened.map fun tag => ⟨tag.first, marked.text.length, tag.shownStyle⟩
    .ok { marked with spans := marked.spans ++ spans }
  | .text cs :: rest =>
    extend { marked with text := marked.text ++ cs.filter (!isDropped ·) } opened rest
  | .tag tag position :: rest => do
    let place := marked.text.length
    if tag.name.head? = some '/' then
      let (found, opened) ← closed tag position opened
      let spans ← found.close place
      extend { marked with spans := marked.spans ++ spans } opened rest
    else
      let style ← normalForm tag.name
      extend marked (⟨place, style, tag.parameters⟩ :: opened) rest

/-- Reads marked-up text. -/
def read (cs : List Char) : Except MarkupFault Marked := extend {} [] (Piece.all cs)

/-- Whether a style can be shown. -/
def isStyle (style : List Char) : Bool :=
  match Style.read style with
  | .error (.part _) => false
  | _ => true

/-- Whether a stretch is there to be shown.  A text of one line shows empty stretches as well. -/
def isThere (marked : Marked) (span : Span) : Bool :=
  let covered := (marked.text.drop span.first).take (span.last - span.first)
  covered.any (· != '\n') || !marked.text.any fun c => c == '\n' || c == '\t'

/-- Whether marked-up text can be shown. -/
def isShown (marked : Marked) : Bool :=
  marked.spans.all fun span => isStyle span.style || !marked.isThere span

end Marked

end ComputeNodes.Markup
