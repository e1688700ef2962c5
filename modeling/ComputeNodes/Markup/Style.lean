/-
Styles of text.

A style is a row of words: attributes, which a `not` in front takes away, a colour, a colour behind
`on`, and an address behind `link`.  Several texts may mean the same style, so styles are compared
by a normal form: attributes by their long names and in a fixed order, then the colours, then the
address.  What is no style is its own normal form, in lower case.
-/
import ComputeNodes.Entries
import ComputeNodes.Markup.Color
import ComputeNodes.Text.Words

namespace ComputeNodes.Markup

/-- A style.  Of what is named twice the last one counts. -/
structure Style where
  /-- The attributes that are named, and whether they are there or not. -/
  attributes : Entries Bool := []
  color : Option String := none
  background : Option String := none
  link : Option String := none
  deriving DecidableEq, Repr

namespace Style

/-- The words for attributes, long and short, with their long names. -/
def attributeWords : List (String × String) :=
  [("dim", "dim"), ("d", "dim"), ("bold", "bold"), ("b", "bold"), ("italic", "italic"),
   ("i", "italic"), ("underline", "underline"), ("u", "underline"), ("blink", "blink"),
   ("blink2", "blink2"), ("reverse", "reverse"), ("r", "reverse"), ("conceal", "conceal"),
   ("c", "conceal"), ("strike", "strike"), ("s", "strike"), ("underline2", "underline2"),
   ("uu", "underline2"), ("frame", "frame"), ("encircle", "encircle"), ("overline", "overline"),
   ("o", "overline")]

/-- The attributes in the order of normal forms. -/
def attributeOrder : List String :=
  ["bold", "dim", "italic", "underline", "blink", "blink2", "reverse", "conceal", "strike",
   "underline2", "frame", "encircle", "overline"]

/-- Reads the words behind those that say `sofar`. -/
def readWords (sofar : Style) : List (List Char) → Except StyleFault Style
  | [] => .ok sofar
  | first :: rest => do
    let word := Text.lower first
    match String.ofList word, rest with
    | "on", color :: rest => do
      let color := Text.lower color
      Color.check color
      readWords { sofar with background := some (String.ofList color) } rest
    | "not", quality :: rest =>
      match attributeWords.lookup (String.ofList quality) with
      | some name => readWords { sofar with attributes := sofar.attributes.put name false } rest
      | none => throw .malformed
    | "link", address :: rest =>
      readWords { sofar with link := some (String.ofList address) } rest
    | "on", [] => throw .malformed
    | "not", [] => throw .malformed
    | "link", [] => throw .malformed
    | name, rest =>
      match attributeWords.lookup name with
      | some name => readWords { sofar with attributes := sofar.attributes.put name true } rest
      | none => do
        Color.check word
        readWords { sofar with color := some name } rest

/-- Reads a style.  The word `none` by itself means one that says nothing. -/
def read (cs : List Char) : Except StyleFault Style :=
  if Text.trim cs = "none".toList then .ok {} else readWords {} (Text.words cs)

/-- A style in its normal form. -/
def write (s : Style) : String :=
  let quality (name : String) : List String :=
    match s.attributes.find? name with
    | some true => [name]
    | some false => ["not", name]
    | none => []
  let words := attributeOrder.flatMap quality ++ s.color.toList
    ++ s.background.elim [] (fun color => ["on", color])
    ++ s.link.elim [] (fun address => ["link", address])
  if words.isEmpty then "none" else " ".intercalate words

/-- The normal form of what may be a style. -/
def normalize (cs : List Char) : Except WholeFault String :=
  match read cs with
  | .ok style => .ok style.write
  | .error .malformed => .ok (String.ofList (Text.lower (Text.trim cs)))
  | .error (.part fault) => .error fault

end Style

end ComputeNodes.Markup
