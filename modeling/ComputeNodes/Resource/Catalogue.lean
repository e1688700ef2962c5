/-
What the service offers: machine types, images, zones and projects.
-/
import ComputeNodes.Value

namespace ComputeNodes

structure MachineType where
  name : Value
  selfLink : Value := ""
  /-- Null where the machine type belongs to no zone. -/
  zone : Value := .null
  guestCpus : Value := .int 0
  memoryMb : Value := .int 0
  description : Value := ""
  deriving DecidableEq, Repr

structure Image where
  name : Value
  selfLink : Value := ""
  project : Value := ""
  family : Value := ""
  status : Value := ""
  description : Value := ""
  deriving DecidableEq, Repr

structure Zone where
  name : Value
  selfLink : Value := ""
  region : String := ""
  status : Value := ""
  deriving DecidableEq, Repr

structure Project where
  name : Value
  id : String := ""
  selfLink : Value := ""
  deriving DecidableEq, Repr

end ComputeNodes
