/-
Loggers and what is above them.

A logger is known by its name, and exists from the first time it is named.  It is below the logger
of the longest piece of its name that ends in front of a dot and exists itself; one that has none is
below the outermost logger.  The character in front of a dot that divides a name divides nothing, so
of two dots in a row only the last one does.

A logger decides once for every level whether it takes records of it, and keeps to that.
-/
import ComputeNodes.Error
import ComputeNodes.Logging.Level

namespace ComputeNodes.Logging

/-- The name of the root of this library's loggers. -/
def rootName : String := "gcenode"

/-- The name of the outermost logger. -/
def outermostName : String := "root"

/-- The logger that a name stands for; nothing is another name for the outermost one. -/
def loggerNamed (name : Value) : Except Error String :=
  if name.isNothing then .ok outermostName
  else match name with
    | .text s => .ok s
    | _ => .error (.use .notLoggerName)

/-- What is behind a dot and one more character of a name is shorter than the name. -/
theorem length_lt_of_dropWhile {name rest : List Char} {dot c : Char}
    (h : name.dropWhile (· != '.') = dot :: c :: rest) : rest.length < name.length := by
  have hle := (List.dropWhile_sublist (· != '.') (l := name)).length_le
  rw [h] at hle
  simp only [List.length_cons] at hle
  omega

/-- The pieces of a name that name the loggers it may be below, the longest first.  Name and pieces
are written backwards. -/
def piecesBackwards (name : List Char) : List (List Char) :=
  match h : name.dropWhile (· != '.') with
  | _ :: c :: rest =>
    have := length_lt_of_dropWhile h
    (c :: rest) :: piecesBackwards rest
  | _ => []
termination_by name.length

/-- The pieces of a name that name the loggers it may be below, the longest first. -/
def pieces (name : String) : List String :=
  (piecesBackwards name.toList.reverse).map fun piece => String.ofList piece.reverse

structure Loggers where
  /-- The loggers that exist. -/
  known : List String := [rootName]
  disabled : List String := []
  /-- What has been decided about levels, by the name of the logger. -/
  decided : List ((String × Level) × Bool) := []
  deriving Repr

namespace Loggers

/-- The logger right above another one, if it is not the outermost. -/
def above? (l : Loggers) (name : String) : Option String := (pieces name).find? (l.known.contains ·)

/-- Whether a logger is the root of this library's loggers or below it.  The fuel is the number of
loggers above it at most. -/
def isWithin (l : Loggers) : Nat → String → Bool
  | 0, name => name == rootName
  | fuel + 1, name =>
    name == rootName || match l.above? name with
      | some upper => l.isWithin fuel upper
      | none => false

/-- Whether a logger is the root of this library's loggers or below it. -/
def isBelowRoot (l : Loggers) (name : String) : Bool := l.isWithin name.length name

/-- Loggers with one of the given name among them. -/
def named (l : Loggers) (name : String) : Loggers :=
  if name == outermostName || l.known.contains name then l
  else { l with known := name :: l.known }

def enable (l : Loggers) (name : String) : Loggers :=
  { l.named name with disabled := l.disabled.filter (· != name) }

def disable (l : Loggers) (name : String) : Loggers :=
  { l.named name with disabled := name :: l.disabled }

/-- The least level that a logger takes records of. -/
def least (l : Loggers) (name : String) : Level :=
  if l.isBelowRoot name then .trace else .warning

/-- Whether a logger takes records of a level. -/
def takes (l : Loggers) (name : String) (level : Level) : Bool × Loggers :=
  let l := l.named name
  if l.disabled.contains name then (false, l)
  else
    match l.decided.lookup (name, level) with
    | some answer => (answer, l)
    | none =>
      let answer := (l.least name).number ≤ level.number
      (answer, { l with decided := ((name, level), decide answer) :: l.decided })

end Loggers

end ComputeNodes.Logging
