/-
Escapes in the texts of expressions.

A backslash in a text gives a character by its number, behind one of three letters that say how many
hexadecimal digits follow, or by its name in braces, behind an `N`.  What is said of a faulty escape
names places of the text in which every character beyond ASCII takes up ten.
-/
import ComputeNodes.Markup.Token

namespace ComputeNodes.Markup.Escape

/-- The escapes that give a character by its number, and how many digits they have. -/
def numberedEscape? : Char → Option (Nat × String)
  | 'x' => some (2, "xXX")
  | 'u' => some (4, "uXXXX")
  | 'U' => some (8, "UXXXXXXXX")
  | _ => none

/-- How many places a character takes up while escapes are looked for. -/
def placesOf (c : Char) : Nat := if c.toNat < 128 then 1 else 10

/-- Takes the name of a character in braces off the front: how many places it takes up, or how many
there are until it breaks off. -/
def splitName : List Char → Except Nat (Nat × List Char)
  | '\x7b' :: rest =>
    let name := rest.takeWhile (· != '\x7d')
    let width := name.foldl (fun width c => width + placesOf c) 0
    match rest.drop name.length with
    | _ :: rest => if name.isEmpty then .error 1 else .ok (width + 2, rest)
    | [] => .error (width + 1)
  | _ => .error 0

/-- Checks the escapes of a text, from a place on.  The fuel is the number of characters. -/
def checkEscapes (bytes : Bool) : Nat → Nat → List Char → Except ExpressionFault Unit
  | 0, _, _ => .ok ()
  | _, _, [] => .ok ()
  | fuel + 1, place, '\\' :: c :: rest =>
    match numberedEscape? c with
    | some (count, shape) =>
      let digits := (rest.take count).takeWhile Text.isHexDigit
      let behind := place + 2 + digits.length
      if bytes && c != 'x' then checkEscapes bytes fuel (place + 2) rest
      else if digits.length < count then
        .error (if bytes then .cutByteEscape place else .cutEscape place (behind - 1) shape)
      else if 0x10ffff < (Text.hexNumber? digits).getD 0 then
        .error (.noSuchCharacter place (behind - 1))
      else checkEscapes bytes fuel behind (rest.drop count)
    | none =>
      if c = 'N' ∧ !bytes then
        match splitName rest with
        | .ok (width, rest) => checkEscapes bytes fuel (place + 2 + width) rest
        | .error width => .error (.cutName place (place + 1 + width))
      else if c.toNat < 128 then checkEscapes bytes fuel (place + 2) rest
      else checkEscapes bytes fuel (place + 6) (c :: rest)
  | fuel + 1, place, c :: rest => checkEscapes bytes fuel (place + placesOf c) rest

/-- Checks a text, which may be one of bytes or a raw one. -/
def checkText (bytes raw : Bool) (body : List Char) : Except ExpressionFault Unit :=
  if bytes && body.any fun c => 128 ≤ c.toNat then .error .bytesBeyondAscii
  else if raw then .ok ()
  else checkEscapes bytes body.length 0 body

end ComputeNodes.Markup.Escape
