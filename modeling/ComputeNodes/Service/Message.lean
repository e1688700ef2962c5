/-
Messages of the service, and the records they are read into.

The service sends messages whose fields may be empty; the rest of the library works with records.
Addresses of zones and regions become their names, and numbers that identify something become
texts.  What the library only hands on goes from a message into its record as it is.

An operation is read with care: a status other than the three known ones counts as pending, and
what went wrong is looked at only when the operation is done.
-/
import ComputeNodes.Resource.Catalogue
import ComputeNodes.Resource.Instance
import ComputeNodes.Resource.Operation
import ComputeNodes.Resource.Uri

namespace ComputeNodes

/-- The name of the resource that a path leads to, or null where there is no path. -/
def Uri.shortNameOrNull (uri : String) : Value :=
  if uri = "" then .null else .text (Uri.shortName uri)

/-! ### Operations -/

structure OperationMessage where
  name : Value := ""
  /-- The word for the status. -/
  status : Value := .null
  zone : String := ""
  targetLink : Value := ""
  id : Value := .int 0
  selfLink : Value := ""
  operationType : Value := ""
  progress : Int := 0
  errorCode : Int := 0
  errorText : Value := ""
  /-- The texts of the single errors. -/
  errors : List String := []
  deriving Repr

namespace OperationMessage

/-- The status of the operation; every other word counts as pending. -/
def knownStatus (m : OperationMessage) : Status :=
  match Status.ofWord m.status with
  | .other .. => .pending
  | known => known

/-- What went wrong with an operation that is done: its code is one of an error, or it lists
single errors.  Their texts stand in for a text of its own, and 500 for a missing code. -/
def failure? (m : OperationMessage) : Option HttpError :=
  if 400 ≤ m.errorCode ∨ m.errors ≠ [] then
    some
      { statusCode := .int (if m.errorCode = 0 then 500 else m.errorCode)
        message := if m.errorText.isNothing then .text ("; ".intercalate m.errors)
          else m.errorText }
  else
    none

/-- The operation that a message tells of. -/
def toOperation (m : OperationMessage) : Operation :=
  { name := m.name
    status := m.knownStatus
    targetLink := m.targetLink
    zone := Uri.shortNameOrNull m.zone
    id := if m.id.isNothing then "" else m.id.plain
    selfLink := m.selfLink
    operationType := m.operationType
    progress := .int m.progress
    httpError := if m.knownStatus = .done then m.failure? else none }

end OperationMessage

/-! ### Instances -/

structure AccessMessage where
  name : Value := ""
  /-- Without a type, an access configuration has the usual one. -/
  type : Option Value := none
  natIp : Value := .null
  deriving DecidableEq, Repr

structure InterfaceMessage where
  network : Value := ""
  networkIp : Value := .null
  accessConfigs : List AccessMessage := []
  deriving DecidableEq, Repr

structure InstanceMessage where
  name : Value := ""
  zone : String := ""
  status : Value := ""
  id : Value := .int 0
  machineType : Value := ""
  selfLink : Value := ""
  tags : List Value := []
  metadata : List (Value × Value) := []
  networkInterfaces : List InterfaceMessage := []
  deriving Repr

/-- The access configuration that a message tells of. -/
def AccessMessage.toAccessConfig (m : AccessMessage) : AccessConfig :=
  { name := m.name
    type := m.type.getD "ONE_TO_ONE_NAT"
    natIp := m.natIp.orNull }

/-- The network interface that a message tells of. -/
def InterfaceMessage.toNetworkInterface (m : InterfaceMessage) : NetworkInterface :=
  { network := m.network
    accessConfigs := m.accessConfigs.map AccessMessage.toAccessConfig
    networkIp := m.networkIp.orNull }

/-- The instance that a message tells of. -/
def InstanceMessage.toInstance (m : InstanceMessage) : Instance :=
  { name := m.name
    zone := Uri.shortName m.zone
    status := m.status
    id := m.id.plain
    machineType := m.machineType
    selfLink := m.selfLink
    tags := m.tags
    metadata := m.metadata
    networkInterfaces := m.networkInterfaces.map InterfaceMessage.toNetworkInterface }

/-! ### What the service offers -/

structure MachineTypeMessage where
  name : Value := ""
  selfLink : Value := ""
  zone : String := ""
  guestCpus : Value := .int 0
  memoryMb : Value := .int 0
  description : Value := ""
  deriving DecidableEq, Repr

structure ImageMessage where
  name : Value := ""
  selfLink : Value := ""
  family : Value := ""
  status : Value := ""
  description : Value := ""
  deriving DecidableEq, Repr

structure ZoneMessage where
  name : Value := ""
  selfLink : Value := ""
  region : String := ""
  status : Value := ""
  deriving DecidableEq, Repr

structure ProjectMessage where
  name : Value := ""
  id : Value := .int 0
  selfLink : Value := ""
  deriving Repr

/-- The machine type that a message tells of. -/
def MachineTypeMessage.toMachineType (m : MachineTypeMessage) : MachineType :=
  { name := m.name
    selfLink := m.selfLink
    zone := Uri.shortNameOrNull m.zone
    guestCpus := m.guestCpus
    memoryMb := m.memoryMb
    description := m.description }

/-- The image that a message tells of, in the project it was asked for in. -/
def ImageMessage.toImage (m : ImageMessage) (project : Value) : Image :=
  { name := m.name
    selfLink := m.selfLink
    project
    family := m.family
    status := m.status
    description := m.description }

/-- The zone that a message tells of. -/
def ZoneMessage.toZone (m : ZoneMessage) : Zone :=
  { name := m.name
    selfLink := m.selfLink
    region := Uri.shortName m.region
    status := m.status }

/-- The project that a message tells of. -/
def ProjectMessage.toProject (m : ProjectMessage) : Project :=
  { name := m.name, id := m.id.plain, selfLink := m.selfLink }

end ComputeNodes
