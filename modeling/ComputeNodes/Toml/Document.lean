/-
Reading a whole TOML document into a table.

A document is a list of statements: headers, which say into which table the following entries go,
and entries.  Most documents that are well formed line by line can still contradict themselves,
and `Marks` remembers what a later statement must not touch any more:

  * a table that was opened by a header, or passed through by the dotted key of an earlier
    section, must not be opened by a header again (`declared`);
  * an array or a table that was written out as a value must not be added to, at any depth
    (`sealed`).

Tables passed through by dotted keys only become declared when the section ends, so that several
entries of one section may pass through the same table; they wait in `passed`.

Arrays and tables that are written out are nested only so deep (`room`).
-/
import ComputeNodes.Toml.Quotation
import ComputeNodes.Toml.Scalar
import ComputeNodes.Value

namespace ComputeNodes.Toml

/-- The names of a table's place, from the outside in. -/
abbrev Path := List String

/-- What later statements must leave alone. -/
structure Marks where
  declared : List Path := []
  sealed : List Path := []
  passed : List Path := []

namespace Marks

def isDeclared (m : Marks) (path : Path) : Bool := m.declared.contains path

/-- Whether a place lies at or below a value that was written out. -/
def isSealed (m : Marks) (path : Path) : Bool := m.sealed.any (·.isPrefixOf path)

def declare (m : Marks) (path : Path) : Marks := { m with declared := path :: m.declared }

/-- Seals a place, if what was put there is an array or a table. -/
def sealValue (m : Marks) (path : Path) : Value → Marks
  | .list _ => { m with sealed := path :: m.sealed }
  | .table _ => { m with sealed := path :: m.sealed }
  | _ => m

/-- The section ends: the tables that its dotted keys passed through become declared. -/
def endSection (m : Marks) : Marks := { m with declared := m.passed ++ m.declared, passed := [] }

/-- Forgets everything at or below a place, which from now on is a new table. -/
def renew (m : Marks) (path : Path) : Marks :=
  { m with
    declared := m.declared.filter (!path.isPrefixOf ·)
    sealed := m.sealed.filter (!path.isPrefixOf ·) }

end Marks

/-- Changes the table at a place, making the tables on the way there as needed.  An array on the
way stands for its last table, where arrays may be entered at all. -/
def enter (throughArrays : Bool) (change : Table → Option Table) : Path → Table → Option Table
  | [], t => change t
  | name :: rest, t =>
    let inside (entries : Table) : Option Table := enter throughArrays change rest entries
    match t.find? name with
    | none => do return t.put name (.table (← inside []))
    | some (.table entries) => do return t.put name (.table (← inside entries))
    | some (.list items) =>
      match throughArrays, items.getLast? with
      | true, some (.table entries) => do
        return t.put name (.list (items.dropLast ++ [.table (← inside entries)]))
      | _, _ => none
    | some _ => none

/-- Puts a value under a name that is not in use yet. -/
def putNew (name : String) (value : Value) (t : Table) : Option Table :=
  if (t.find? name).isSome then none else some (t.put name value)

/-- Adds an empty table to the array under a name, or starts one. -/
def pushTable (name : String) (t : Table) : Option Table :=
  match t.find? name with
  | none => some (t.put name (.list [.table []]))
  | some (.list items) => some (t.put name (.list (items ++ [.table []])))
  | some _ => none

/-- Takes what must be there, or refuses the document. -/
def require {α : Type} : Option α → Read α
  | some a => return a
  | none => refuse

/-- The last name of a place, and the place of the table that holds it. -/
def splitLast (path : Path) : Path × String := (path.dropLast, path.getLastD "")

/-- Passes over the sign between a key and its value. -/
def equals : Read Unit := do
  if !(← skipText? ['=']) then refuse
  skipBlanks

/-- How much of the room for nesting an array takes up, and a table. -/
def arrayStep : Nat := 2

def tableStep : Nat := 3

/-- The room for nesting inside one value. -/
def room : Nat := 986

/-- What is left of the room inside an array or a table. -/
def inside (room step : Nat) : Read Nat := do
  if room < step then
    throw .tooDeep
  return room - step

mutual

/-- Reads a value where so much room is left for nesting.  The fuel is the number of characters. -/
def value (room : Nat) : Nat → Read Value
  | 0 => refuse
  | fuel + 1 => do
    match ← peek? with
    | some '\x22' => return .text (← quotation)
    | some '\x27' => return .text (← quotation)
    | some '[' => do
      skip 1
      array (← inside room arrayStep) fuel []
    | some '\x7b' => do
      skip 1
      let room ← inside room tableStep
      skipBlanks
      if ← skipText? ['\x7d'] then return .table []
      inlineTable room fuel {} []
    | _ =>
      if ← skipText? ['t', 'r', 'u', 'e'] then return .bool true
      if ← skipText? ['f', 'a', 'l', 's', 'e'] then return .bool false
      if let some m ← moment? then return .moment m
      match ← numeral? with
      | some (.whole n) => return .int n
      | some (.double x) => return .float x
      | none => refuse

/-- Reads an array from behind its opening bracket or behind a comma. -/
def array (room : Nat) : Nat → List Value → Read Value
  | 0, _ => refuse
  | fuel + 1, items => do
    skipLines ((← get).length + 1)
    if ← skipText? [']'] then return .list items
    let items := items ++ [← value room fuel]
    skipLines ((← get).length + 1)
    if ← skipText? [']'] then return .list items
    if ← skipText? [','] then array room fuel items else refuse

/-- Reads an inline table from its first key or from behind a comma and blanks. -/
def inlineTable (room : Nat) : Nat → Marks → Table → Read Value
  | 0, _, _ => refuse
  | fuel + 1, marks, entries => do
    let path ← key
    equals
    let item ← value room fuel
    if marks.isSealed path then refuse
    let (parent, name) := splitLast path
    let entries ← require (enter false (putNew name item) parent entries)
    skipBlanks
    if ← skipText? ['\x7d'] then return .table entries
    if !(← skipText? [',']) then refuse
    skipBlanks
    inlineTable room fuel (marks.sealValue path item) entries

end

/-- What has been read so far: the table, the marks, and the table that entries go into. -/
structure Progress where
  entries : Table := []
  marks : Marks := {}
  header : Path := []

namespace Progress

/-- Reads an entry into the current table. -/
def entry (p : Progress) : Read Progress := do
  let path ← key
  equals
  let item ← value room ((← get).length + 1)
  let (parent, name) := splitLast path
  let steps := (List.range (path.length - 1)).map fun n => p.header ++ path.take (n + 1)
  if steps.any p.marks.isDeclared then refuse
  let place := p.header ++ parent
  if p.marks.isSealed place then refuse
  let entries ← require (enter true (putNew name item) place p.entries)
  let marks := { p.marks with passed := steps ++ p.marks.passed }
  return { p with entries, marks := marks.sealValue (p.header ++ path) item }

/-- Reads the header of a table, from behind its opening bracket. -/
def tableHeader (p : Progress) : Read Progress := do
  skipBlanks
  let path ← key
  if p.marks.isDeclared path || p.marks.isSealed path then refuse
  let entries ← require (enter true some path p.entries)
  if !(← skipText? [']']) then refuse
  return { entries, marks := p.marks.declare path, header := path }

/-- Reads the header of an array's next table, from behind its opening brackets. -/
def arrayHeader (p : Progress) : Read Progress := do
  skipBlanks
  let path ← key
  if p.marks.isSealed path then refuse
  let (parent, name) := splitLast path
  let entries ← require (enter true (pushTable name) parent p.entries)
  if !(← skipText? [']', ']']) then refuse
  return { entries, marks := (p.marks.renew path).declare path, header := path }

/-- Reads a statement, if the line holds one. -/
def statement (p : Progress) : Read Progress := do
  match ← peek? with
  | some c =>
    if isBareKeyChar c || c == '\x22' || c == '\x27' then p.entry
    else if c == '[' then
      let p := { p with marks := p.marks.endSection }
      if ← skipText? ['[', '['] then p.arrayHeader
      else
        skip 1
        p.tableHeader
    else if c == '#' || c == '\n' then return p
    else refuse
  | none => return p

/-- Reads line by line up to the end of the document.  The fuel is the number of lines at most. -/
def lines : Nat → Progress → Read Progress
  | 0, p => return p
  | fuel + 1, p => do
    skipBlanks
    let p ← p.statement
    skipBlanks
    skipComment
    match ← get with
    | [] => return p
    | '\n' :: rest =>
      set rest
      lines fuel p
    | _ => refuse

end Progress

/-- Line ends of two characters count as one line feed. -/
def normalized : List Char → List Char
  | '\r' :: '\n' :: rest => '\n' :: normalized rest
  | c :: rest => c :: normalized rest
  | [] => []

/-- Reads a document. -/
def read (document : String) : Except Fault Table := do
  let cs := normalized document.toList
  let (p, _) ← (Progress.lines (cs.length + 1) {}).run cs
  return p.entries

end ComputeNodes.Toml
