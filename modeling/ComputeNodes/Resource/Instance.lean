/-
Instances: the machines behind nodes.

What the library only hands on is kept as the service gave it, and may be any value.
-/
import ComputeNodes.Value

namespace ComputeNodes

/-- How an instance is reached from outside. -/
structure AccessConfig where
  name : Value := "External NAT"
  type : Value := "ONE_TO_ONE_NAT"
  natIp : Value := .null
  deriving DecidableEq, Repr

structure NetworkInterface where
  network : Value
  accessConfigs : List AccessConfig := []
  networkIp : Value := .null
  deriving DecidableEq, Repr

structure Instance where
  name : Value
  zone : Value
  status : Value := ""
  id : Value := ""
  machineType : Value := ""
  selfLink : Value := ""
  tags : List Value := []
  metadata : List (Value × Value) := []
  networkInterfaces : List NetworkInterface := []
  deriving DecidableEq, Repr

namespace Instance

/-- The first external address that is not empty. -/
def externalIp (i : Instance) : Option Value :=
  let addresses := i.networkInterfaces.flatMap fun interface =>
    interface.accessConfigs.map AccessConfig.natIp
  addresses.find? (!·.isNothing)

end Instance

end ComputeNodes
