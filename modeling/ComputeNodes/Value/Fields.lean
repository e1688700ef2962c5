/-
Fields of tables.

A field is read as the kind of value that is expected of it.  A field that is missing, or holds
nothing, reads as the empty value of that kind.
-/
import ComputeNodes.Value.Alike

namespace ComputeNodes.Table

/-- A field, where it is there and holds something. -/
def given? (t : Table) (name : String) : Option Value :=
  match t.find? name with
  | some .null => none
  | other => other

/-- A field, or the usual value where it is missing. -/
def valueAt (t : Table) (name : String) (usual : Value) : Value := (t.find? name).getD usual

/-- A text that may be missing. -/
def textAt? (t : Table) (name : String) : Option String := (t.given? name).map Value.plain

def textAt (t : Table) (name : String) : String := (t.textAt? name).getD ""

def wholeAt (t : Table) (name : String) : Int := (t.valueAt name .null).amount?.getD 0

def listAt (t : Table) (name : String) : List Value :=
  match t.find? name with
  | some (.list items) => items
  | _ => []

/-- A value as a table. -/
def ofValue : Value → Table
  | .table entries => entries
  | _ => []

def tableAt (t : Table) (name : String) : Table := ofValue (t.valueAt name .null)

def tablesAt (t : Table) (name : String) : List Table := (t.listAt name).map ofValue

/-- A table of the values that are there. -/
def ofGiven (fields : List (String × Value)) : Table :=
  fields.filter fun entry => entry.2 != .null

/-- A table of one list, without an entry for an empty one. -/
def ofList (name : String) (items : List Value) : Table :=
  if items.isEmpty then [] else [(name, .list items)]

end ComputeNodes.Table
