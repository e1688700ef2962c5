/-
Insertions of instances.

An instance is asked for by a specification, which becomes the body of the request.  The body asks
for one disk made from the image, and leaves it to the service to choose addresses.

The body is put together from smaller messages, innermost first, and each of them takes texts only.
The first one that cannot be made is the one reported.
-/
import ComputeNodes.Node.Template
import ComputeNodes.Resource.Instance
import ComputeNodes.Service.Texts

namespace ComputeNodes

/-- An account that the programs on a new instance may act as. -/
structure NewAccount where
  email : Value
  scopes : List Value
  deriving DecidableEq, Repr

/-- What a new instance is to be like. -/
structure InstanceSpec where
  machineType : Value
  image : Value
  networkInterfaces : List NetworkInterface := []
  metadata : Entries Value := []
  tags : List Value := []
  serviceAccounts : List NewAccount := []
  description : Value := .null
  deriving DecidableEq, Repr

/-- A disk that is made together with its instance. -/
structure NewDisk where
  boot : Bool
  autoDelete : Bool
  sourceImage : Value
  deriving DecidableEq, Repr

/-- How a new instance is to be reached from outside. -/
structure NewAccess where
  name : Value
  type : Value
  deriving DecidableEq, Repr

structure NewInterface where
  network : Value
  accessConfigs : List NewAccess
  deriving DecidableEq, Repr

/-- The body of a request for a new instance. -/
structure InsertBody where
  name : Value
  machineType : Value
  disks : List NewDisk
  networkInterfaces : List NewInterface
  metadata : List (String × Value)
  tags : List Value
  serviceAccounts : List NewAccount
  description : Value
  deriving DecidableEq, Repr

namespace InsertBody

/-- The body that asks for an instance.  Addresses are for the service to choose, so those of the
specification are left out. -/
def ofSpec (name : Value) (spec : InstanceSpec) : InsertBody :=
  { name
    machineType := spec.machineType
    disks := [{ boot := true, autoDelete := true, sourceImage := spec.image }]
    networkInterfaces := spec.networkInterfaces.map fun interface =>
      { network := interface.network
        accessConfigs := interface.accessConfigs.map fun access => ⟨access.name, access.type⟩ }
    metadata := spec.metadata
    tags := spec.tags
    serviceAccounts := spec.serviceAccounts
    description := spec.description.orNull }

/-- Checks that the messages of a body can be made. -/
def check (body : InsertBody) : Except MessageFault Unit := do
  for disk in body.disks do
    Texts.check "AttachedDiskInitializeParams" [disk.sourceImage]
  for interface in body.networkInterfaces do
    for access in interface.accessConfigs do
      Texts.check "AccessConfig" [access.name, access.type]
    Texts.check "NetworkInterface" [interface.network]
  for (key, value) in body.metadata do
    Texts.check "Items" [key, value]
  Texts.check "Tags" [] body.tags
  for account in body.serviceAccounts do
    Texts.check "ServiceAccount" [account.email] account.scopes
  Texts.check "Instance" [body.name, body.machineType]
  Texts.check "Instance" [body.description]

end InsertBody

end ComputeNodes
