/-
How messages are sent.

Messages are typed or loose, and reading one gives what the rest of the library works with.  What is
sent are tables, which loose messages take as records (`Value.loosened`).  A loose message may turn
out not to be readable, and a loose answer may hold no message at all, which says that there is no
such thing.
-/
import ComputeNodes.Service.Loose
import ComputeNodes.Service.Request
import ComputeNodes.Service.Typed

namespace ComputeNodes

namespace Value

mutual

/-- A value with records in the place of all its tables. -/
def loosened : Value → Value
  | .list items => .list (loosenedItems items)
  | .table entries => .record (loosenedEntries entries)
  | .record features => .record (loosenedEntries features)
  | v => v

def loosenedItems : List Value → List Value
  | [] => []
  | item :: rest => loosened item :: loosenedItems rest

def loosenedEntries : List (String × Value) → List (String × Value)
  | [] => []
  | (key, value) :: rest => (key, loosened value) :: loosenedEntries rest

end

end Value

/-- How messages are sent. -/
inductive Wire where
  | typed
  | loose
  deriving DecidableEq, Repr

namespace Wire

/-- Reads a message by the way in which it was sent. -/
def read {α : Type} (wire : Wire) (typed : Table → α) (loose : Value → Except Error α)
    (message : Value) : Except Error α :=
  match wire with
  | .typed => .ok (typed (Table.ofValue message))
  | .loose => loose message.loosened

def operation (wire : Wire) : Value → Except Error OperationMessage :=
  wire.read Typed.operation Loose.operation

def vm (wire : Wire) : Value → Except Error InstanceMessage := wire.read Typed.vm Loose.vm

def machineType (wire : Wire) : Value → Except Error MachineTypeMessage :=
  wire.read Typed.machineType Loose.machineType

def image (wire : Wire) : Value → Except Error ImageMessage := wire.read Typed.image Loose.image

def zone (wire : Wire) : Value → Except Error ZoneMessage := wire.read Typed.zone Loose.zone

def project (wire : Wire) : Value → Except Error ProjectMessage :=
  wire.read Typed.project Loose.project

/-- A page whose items are listed one by one. -/
def page {α : Type} (read : Value → Except Error α) (t : Table) : Except Error (PageMessage α) := do
  let items ← (t.listAt "items").mapM read
  return { items, nextPageToken := t.valueAt "next_page_token" "" }

/-- A page of machine types of all zones, in groups under the names of their zones. -/
def groupedPage (wire : Wire) (t : Table) :
    Except Error (PageMessage (String × List MachineTypeMessage)) := do
  let items ← (t.tableAt "items").mapM fun (zone, group) => do
    return (zone, ← ((Table.ofValue group).listAt "machine_types").mapM wire.machineType)
  return { items, nextPageToken := t.valueAt "next_page_token" "" }

/-- A message that need not be there. -/
def found {α : Type} (wire : Wire) (read : Value → Except Error α) (message : Value) :
    Except Error α :=
  match wire, message with
  | .loose, .null => .error (.raised (.service .notFound) "")
  | _, _ => read message

/-- What an endpoint answers with. -/
def reply (wire : Wire) (message : Value) : (e : Endpoint) → Except Error e.Reply
  | .list .instances => page wire.vm (Table.ofValue message)
  | .list (.machineTypes false) => page wire.machineType (Table.ofValue message)
  | .list (.machineTypes true) => groupedPage wire (Table.ofValue message)
  | .list .images => page wire.image (Table.ofValue message)
  | .list .zones => page wire.zone (Table.ofValue message)
  | .getInstance => wire.found wire.vm message
  | .insertInstance => wire.operation message
  | .deleteInstance => wire.found wire.operation message
  | .getMachineType => wire.found wire.machineType message
  | .getImage => wire.found wire.image message
  | .getZone => wire.found wire.zone message
  | .getOperation _ => wire.found wire.operation message
  | .getProject => wire.found wire.project message

end Wire

end ComputeNodes
