/-
Strings and keys of a TOML document.

Strings come in four forms: on one line or on several, with escapes (double quotes) or without
(apostrophes).  A string over several lines loses a line end right behind its opening, may end in
up to two more quotation marks than the three that close it, and in the form with escapes a
backslash before a line end swallows all blanks and line ends behind it.
-/
import ComputeNodes.Toml.Scan

namespace ComputeNodes.Toml

/-- The character that a short escape stands for. -/
def escaped? : Char → Option Char
  | 'b' => some '\x08'
  | 't' => some '\t'
  | 'n' => some '\n'
  | 'f' => some '\x0c'
  | 'r' => some '\r'
  | '\x22' => some '\x22'
  | '\\' => some '\\'
  | _ => none

/-- Reads a character by its number, in exactly that many hexadecimal digits. -/
def numberedChar (count : Nat) : Read Char := do
  let digits := (← get).take count
  skip count
  if digits.length ≠ count then refuse
  match Text.hexNumber? digits with
  | some n => if h : n.isValidChar then return Char.ofNatAux n h else refuse
  | none => refuse

/-- Reads an escape, from behind its backslash. -/
def escape : Read Char := do
  match ← get with
  | 'u' :: rest => do set rest; numberedChar 4
  | 'U' :: rest => do set rest; numberedChar 8
  | c :: rest =>
    match escaped? c with
    | some meant => do set rest; return meant
    | none => refuse
  | [] => refuse

/-- Passes over what a backslash before a line end swallows; says whether there was a line end.
Blanks between the two are swallowed as well, also at the very end of the document. -/
def swallowed? : Read Bool := do
  match ← get with
  | '\n' :: _ =>
    modify (·.dropWhile fun c => isBlank c || c == '\n')
    return true
  | c :: _ =>
    if isBlank c then
      skipBlanks
      match ← get with
      | [] => return true
      | '\n' :: _ =>
        modify (·.dropWhile fun c => isBlank c || c == '\n')
        return true
      | _ => refuse
    else return false
  | [] => return false

/-- Reads the rest of a one-line string with escapes.  The fuel is the number of characters left. -/
def escapedLine : Nat → Read (List Char)
  | 0 => refuse
  | fuel + 1 => do
    match ← get with
    | [] => refuse
    | '\x22' :: rest => do set rest; return []
    | '\\' :: rest => do
      set rest
      let c ← escape
      return c :: (← escapedLine fuel)
    | c :: rest => do
      if isForbidden c then refuse
      set rest
      return c :: (← escapedLine fuel)

/-- Reads the rest of a string with escapes over several lines, with its closing. -/
def escapedLines : Nat → Read (List Char)
  | 0 => refuse
  | fuel + 1 => do
    match ← get with
    | [] => refuse
    | '\x22' :: '\x22' :: '\x22' :: rest => do set rest; return []
    | '\\' :: rest => do
      set rest
      if ← swallowed? then escapedLines fuel
      else
        let c ← escape
        return c :: (← escapedLines fuel)
    | c :: rest => do
      if isForbidden c && c != '\n' then refuse
      set rest
      return c :: (← escapedLines fuel)

/-- Reads the rest of a one-line string without escapes. -/
def literalLine : Read (List Char) := do
  let text ← takeWhile (· != '\x27')
  if text.any isForbidden then refuse
  if !(← skipText? ['\x27']) then refuse
  return text

/-- Reads the rest of a string without escapes over several lines, with its closing. -/
def literalLines : Nat → Read (List Char)
  | 0 => refuse
  | fuel + 1 => do
    match ← get with
    | [] => refuse
    | '\x27' :: '\x27' :: '\x27' :: rest => do set rest; return []
    | c :: rest => do
      if isForbidden c && c != '\n' then refuse
      set rest
      return c :: (← literalLines fuel)

/-- Reads up to two more quotation marks behind the three that close a string. -/
def extraMarks (mark : Char) : Read (List Char) := do
  if ← skipText? [mark] then
    if ← skipText? [mark] then return [mark, mark] else return [mark]
  else return []

/-- Reads a string over several lines, from its opening. -/
def multiline (mark : Char) (body : Nat → Read (List Char)) : Read String := do
  skip 3
  discard (skipText? ['\n'])
  let text ← body ((← get).length + 1)
  return String.ofList (text ++ (← extraMarks mark))

/-- Reads a one-line string, from its opening. -/
def line : Read String := do
  match ← get with
  | '\x22' :: rest => do
    set rest
    return String.ofList (← escapedLine (rest.length + 1))
  | '\x27' :: rest => do
    set rest
    return String.ofList (← literalLine)
  | _ => refuse

/-- Reads a string in any form, from its opening. -/
def quotation : Read String := do
  if ← isAt ['\x22', '\x22', '\x22'] then multiline '\x22' escapedLines
  else if ← isAt ['\x27', '\x27', '\x27'] then multiline '\x27' literalLines
  else line

/-- Reads one part of a key. -/
def keyPart : Read String := do
  match ← peek? with
  | some c =>
    if isBareKeyChar c then return String.ofList (← takeWhile isBareKeyChar)
    else if c == '\x22' || c == '\x27' then line
    else refuse
  | none => refuse

/-- Reads the parts of a key behind its first one.  The fuel is the number of characters left. -/
def keyParts : Nat → Read (List String)
  | 0 => return []
  | fuel + 1 => do
    skipBlanks
    if ← skipText? ['.'] then
      skipBlanks
      let part ← keyPart
      return part :: (← keyParts fuel)
    else return []

/-- Reads a key: its parts from the outside in, with the blanks behind it. -/
def key : Read (List String) := do
  let first ← keyPart
  return first :: (← keyParts (← get).length)

end ComputeNodes.Toml
