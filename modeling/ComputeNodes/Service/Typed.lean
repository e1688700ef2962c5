/-
Typed messages.

In a typed message every field is there and of its type, and one that was not sent, or was sent as
null, is empty.  So reading one never fails.
-/
import ComputeNodes.Service.Message
import ComputeNodes.Value.Fields
import ComputeNodes.Value.Whole

namespace ComputeNodes.Typed

/-- A field that is only handed on. -/
def handed (t : Table) (name : String) : Value := .text (t.textAt name)

/-- A number that identifies something; it may be given as a numeral. -/
def number (t : Table) (name : String) : Value :=
  .int ((t.valueAt name .null).whole.toOption.getD 0)

/-- The numbers that statuses of operations are sent as, with their words. -/
def statusNumbers : List (Int × String) :=
  [(2104194, "DONE"), (35394935, "PENDING"), (121282975, "RUNNING")]

/-- The word for the status of an operation, which is sent as a word or a number. -/
def status (t : Table) : Value :=
  match t.valueAt "status" .null with
  | .int n => (statusNumbers.lookup n).elim .null .text
  | v => v

def operation (t : Table) : OperationMessage :=
  { name := handed t "name"
    status := status t
    zone := t.textAt "zone"
    targetLink := handed t "target_link"
    id := number t "id"
    selfLink := handed t "self_link"
    operationType := handed t "operation_type"
    progress := t.wholeAt "progress"
    errorCode := t.wholeAt "http_error_status_code"
    errorText := handed t "http_error_message"
    errors := ((t.tableAt "error").tablesAt "errors").map (Table.textAt · "message") }

def access (t : Table) : AccessMessage :=
  { name := handed t "name", type := some (handed t "type_"), natIp := handed t "nat_i_p" }

def interface (t : Table) : InterfaceMessage :=
  { network := handed t "network"
    networkIp := handed t "network_i_p"
    accessConfigs := (t.tablesAt "access_configs").map access }

def vm (t : Table) : InstanceMessage :=
  { name := handed t "name"
    zone := t.textAt "zone"
    status := handed t "status"
    id := number t "id"
    machineType := handed t "machine_type"
    selfLink := handed t "self_link"
    tags := (t.tableAt "tags").listAt "items"
    metadata := ((t.tableAt "metadata").tablesAt "items").map fun item =>
      (handed item "key", handed item "value")
    networkInterfaces := (t.tablesAt "network_interfaces").map interface }

def machineType (t : Table) : MachineTypeMessage :=
  { name := handed t "name"
    selfLink := handed t "self_link"
    zone := t.textAt "zone"
    guestCpus := .int (t.wholeAt "guest_cpus")
    memoryMb := .int (t.wholeAt "memory_mb")
    description := handed t "description" }

def image (t : Table) : ImageMessage :=
  { name := handed t "name"
    selfLink := handed t "self_link"
    family := handed t "family"
    status := handed t "status"
    description := handed t "description" }

def zone (t : Table) : ZoneMessage :=
  { name := handed t "name"
    selfLink := handed t "self_link"
    region := t.textAt "region"
    status := handed t "status" }

def project (t : Table) : ProjectMessage :=
  { name := handed t "name"
    id := number t "id"
    selfLink := handed t "self_link" }

end ComputeNodes.Typed
