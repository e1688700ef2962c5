/-
Loose messages.

A loose message has the fields that it has, and they hold whatever was put there.  Some fields have
to be there and others need not; a list has to be one that can be walked, a path has to be a text,
and a number may be given as a numeral.  Everything else is handed on.

A loose message is a record, and so are the messages in it.

Fields are read in a fixed order, so of several faults the first one is reported.
-/
import ComputeNodes.Error
import ComputeNodes.Service.Message
import ComputeNodes.Value.Fields
import ComputeNodes.Value.Whole

namespace ComputeNodes.Loose

/-! ### Fields -/

/-- A field, where the value is a message that has it. -/
def field? (v : Value) (name : String) : Option Value :=
  match v with
  | .record features => Entries.find? features name
  | _ => none

/-- A field that has to be there. -/
def field (v : Value) (name : String) : Except Error Value :=
  match field? v name with
  | some found => .ok found
  | none => .error (.use (.lacks v.typeName name))

/-- A field that counts as something. -/
def something? (v : Value) (name : String) : Option Value :=
  (field? v name).filter fun found => !found.isNothing

/-- A field that is handed on, or an empty text. -/
def handed (v : Value) (name : String) : Value := (something? v name).getD ""

/-- The things that a value can be walked by. -/
def items : Value → Except Error (List Value)
  | .list l => .ok l
  | .text s => .ok (s.toList.map fun c => .text c.toString)
  | v => .error (.use (.notList v.typeName))

/-- A path to a resource, which is taken apart as a text. -/
def path : Value → Except Error String
  | .text s => .ok s
  | v => .error (.use (.lacks v.typeName "rstrip"))

/-- A path that may be missing. -/
def pathOrEmpty (v : Value) : Except Error String := if v.isNothing then .ok "" else path v

/-- The whole number in a field, zero where there is nothing. -/
def whole (v : Value) (name : String) : Except Error Int :=
  match something? v name with
  | none => .ok 0
  | some found => found.whole.mapError .whole

/-! ### Operations -/

/-- The word for the status of an operation, which is a text or a message with a name. -/
def status (v : Value) : Value :=
  let status := (field? v "status").getD .null
  (field? status "name").getD status

/-- Puts the texts of single errors in a row. -/
def errorTexts (index : Nat) : List Value → Except Error (List String)
  | [] => .ok []
  | error :: rest => do
    match (field? error "message").getD "" with
    | .text s => return s :: (← errorTexts (index + 1) rest)
    | other => throw (.use (.notText index other.typeName))

/-- What a message says about a failure: its code, its text and the texts of single errors, which
are put together only where they are needed. -/
def failure (v : Value) : Except Error (Int × Value × List String) := do
  let code ← whole v "http_error_status_code"
  let errors ← match (field? v "error").bind (something? · "errors") with
    | some found => items found
    | none => pure []
  let text := handed v "http_error_message"
  if text.isNothing then
    return (code, text, ← errorTexts 0 errors)
  else
    return (code, text, errors.map Value.plain)

def operation (v : Value) : Except Error OperationMessage := do
  let status := status v
  let (errorCode, errorText, errors) ←
    if status = Status.done.word then failure v else pure (0, "", [])
  let name ← field v "name"
  let zone ← pathOrEmpty (handed v "zone")
  return {
    name
    status
    zone
    targetLink := handed v "target_link"
    id := ((something? v "id").map fun id => .text id.plain).getD .null
    selfLink := handed v "self_link"
    operationType := handed v "operation_type"
    progress := ← whole v "progress"
    errorCode
    errorText
    errors }

/-! ### Instances -/

def access (v : Value) : Except Error AccessMessage := do
  return {
    name := ← field v "name"
    type := field? v "type_"
    natIp := (something? v "nat_i_p").getD .null }

def interface (v : Value) : Except Error InterfaceMessage := do
  let network ← field v "network"
  let accessConfigs ← (← items (← field v "access_configs")).mapM access
  return { network, networkIp := (something? v "network_i_p").getD .null, accessConfigs }

/-- The items of a part that may be missing. -/
def partItems (v : Value) (name : String) : Except Error (List Value) := do
  match something? v name with
  | none => return []
  | some part => items (← field part "items")

/-- An item of metadata. -/
def metadataItem (v : Value) : Except Error (Value × Value) := do
  return (← field v "key", ← field v "value")

def vm (v : Value) : Except Error InstanceMessage := do
  let networkInterfaces ← (← items (← field v "network_interfaces")).mapM interface
  return {
    name := ← field v "name"
    zone := ← path (← field v "zone")
    status := ← field v "status"
    id := .text (← field v "id").plain
    machineType := ← field v "machine_type"
    selfLink := ← field v "self_link"
    tags := ← partItems v "tags"
    metadata := ← (← partItems v "metadata").mapM metadataItem
    networkInterfaces }

/-! ### What the service offers -/

def machineType (v : Value) : Except Error MachineTypeMessage := do
  return {
    name := ← field v "name"
    selfLink := ← field v "self_link"
    zone := ← pathOrEmpty (← field v "zone")
    guestCpus := ← field v "guest_cpus"
    memoryMb := ← field v "memory_mb"
    description := ← field v "description" }

def image (v : Value) : Except Error ImageMessage := do
  return {
    name := ← field v "name"
    selfLink := ← field v "self_link"
    family := ← field v "family"
    status := ← field v "status"
    description := ← field v "description" }

def zone (v : Value) : Except Error ZoneMessage := do
  return {
    name := ← field v "name"
    selfLink := ← field v "self_link"
    region := ← pathOrEmpty (← field v "region")
    status := ← field v "status" }

def project (v : Value) : Except Error ProjectMessage := do
  return {
    name := ← field v "name"
    id := .text (← field v "id").plain
    selfLink := ← field v "self_link" }

end ComputeNodes.Loose
