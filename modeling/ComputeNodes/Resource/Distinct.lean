/-
Records of which each one counts once.

Two records are the same when the values in them count as the same one by one and their lists are
equally long.  Of records that are the same the first one is kept.  A record that holds a value that
can be no key cannot be told apart from others, and is turned down.
-/
import ComputeNodes.Error
import ComputeNodes.Resource.Catalogue
import ComputeNodes.Resource.Instance
import ComputeNodes.Value.Alike

namespace ComputeNodes

/-- Records that are told apart by what they hold. -/
class Keyed (α : Type) where
  /-- The values in a record, in the order in which they are looked at. -/
  values : α → List Value
  /-- The lengths of the lists in a record. -/
  lengths : α → List Nat

instance : Keyed Image where
  values i := [i.name, i.selfLink, i.project, i.family, i.status, i.description]
  lengths _ := []

/-- The values in a network interface. -/
def NetworkInterface.values (n : NetworkInterface) : List Value :=
  [n.network] ++ n.accessConfigs.flatMap (fun a => [a.name, a.type, a.natIp]) ++ [n.networkIp]

instance : Keyed Instance where
  values i :=
    [i.name, i.zone, i.status, i.id, i.machineType, i.selfLink] ++ i.tags
      ++ i.metadata.flatMap (fun (key, value) => [key, value])
      ++ i.networkInterfaces.flatMap NetworkInterface.values
  lengths i :=
    [i.tags.length, i.metadata.length, i.networkInterfaces.length]
      ++ i.networkInterfaces.map fun n => n.accessConfigs.length

namespace Keyed

variable {α : Type} [Keyed α]

/-- Whether two records are the same. -/
def same (a b : α) : Bool :=
  lengths a == lengths b
    && ((values a).zip (values b)).all fun (v, w) => v.alike w

/-- Adds a record to others, where the same one is not among them. -/
def add (others : List α) (a : α) : Except Error (List α) :=
  match (values a).find? (!·.canBeKey) with
  | some v => .error (.use (.notKey v.typeName))
  | none => .ok (if others.any (same · a) then others else others ++ [a])

/-- Adds one record after the other. -/
def addAll (others : List α) (records : List α) : Except Error (List α) :=
  records.foldlM add others

end Keyed

end ComputeNodes
