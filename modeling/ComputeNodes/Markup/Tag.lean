/-
Tags.

A tag stands in square brackets, and begins with a lower-case letter, a number sign, a slash or an
at sign.  Other brackets are text.  A backslash in front of a tag makes it text as well, and two
backslashes stand for one.
-/

namespace ComputeNodes.Markup

/-- A tag: its name, and what follows an equals sign behind it. -/
structure Tag where
  name : List Char
  parameters : Option (List Char) := none
  deriving DecidableEq, Repr

/-- A piece of marked-up text. -/
inductive Piece where
  | text (cs : List Char)
  /-- A tag, and how many characters there are in front of it. -/
  | tag (tag : Tag) (position : Nat)
  deriving DecidableEq, Repr

namespace Tag

/-- Whether a tag may begin with a character. -/
def begins (c : Char) : Bool := ('a' ≤ c && c ≤ 'z') || c == '#' || c == '/' || c == '@'

/-- The tag with the given text between its brackets. -/
def ofBody (body : List Char) : Tag where
  name := body.takeWhile (· != '=')
  parameters :=
    match body.dropWhile (· != '=') with
    | _ :: parameters => some parameters
    | [] => none

/-- What is between the brackets of a tag. -/
def body (tag : Tag) : List Char := tag.name ++ tag.parameters.elim [] ('=' :: ·)

/-- The text between brackets that make a tag, behind the opening one. -/
def body? (cs : List Char) : Option (List Char) :=
  let body := cs.takeWhile fun c => c != '[' && c != ']'
  if body.head?.any begins && cs[body.length]? == some ']' then some body else none

end Tag

namespace Piece

/-- The text between tags: a backslash in front of a bracket goes away. -/
def unescaped : List Char → List Char
  | '\\' :: '[' :: rest => '[' :: unescaped rest
  | c :: rest => c :: unescaped rest
  | [] => []

/-- Puts text in front of pieces, if there is any. -/
def prepend (cs : List Char) (pieces : List Piece) : List Piece :=
  if cs.isEmpty then pieces else .text (unescaped cs) :: pieces

/-- The pieces of a text that goes on from a position, behind plain text whose last character comes
first.  The fuel is the number of characters. -/
def cut : Nat → Nat → List Char → List Char → List Piece
  | 0, _, plain, _ => prepend plain.reverse []
  | _, _, plain, [] => prepend plain.reverse []
  | fuel + 1, position, plain, c :: rest =>
    let slashes := (c :: rest).takeWhile (· == '\\')
    let count := slashes.length
    match (c :: rest).drop count with
    | '[' :: inner =>
      match Tag.body? inner with
      | some body =>
        let after := inner.drop (body.length + 1)
        let next := position + count + body.length + 2
        let pieces := if count % 2 = 0
          then .tag (Tag.ofBody body) (position + count) :: cut fuel next [] after
          else .text ('[' :: body ++ [']']) :: cut fuel next [] after
        prepend plain.reverse (prepend (List.replicate (count / 2) '\\') pieces)
      | none => cut fuel (position + count + 1) ('[' :: slashes ++ plain) inner
    | rest' =>
      if count = 0 then cut fuel (position + 1) (c :: plain) rest
      else cut fuel (position + count) (slashes ++ plain) rest'

/-- The pieces of marked-up text. -/
def all (cs : List Char) : List Piece := cut cs.length 0 [] cs

end Piece

end ComputeNodes.Markup
