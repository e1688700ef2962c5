/-
Node identifiers.

A node is identified by its zone and its name, written with a slash between them.  `NodeId.read?`
takes exactly the texts with one slash that is neither first nor last, so reading back what was
written gives the same zone and name whenever both are non-empty and free of slashes.
-/
import ComputeNodes.Text.Split

namespace ComputeNodes

/-- A zone and the name of an instance in it. -/
structure NodeId where
  zone : String
  name : String
  deriving DecidableEq, Repr

namespace NodeId

/-- The identifier as text. -/
def write (id : NodeId) : String := id.zone ++ "/" ++ id.name

/-- Reads an identifier. -/
def read? (text : String) : Option NodeId :=
  match Text.splitAt? '/' text.toList with
  | some (zone, name) =>
    if zone.isEmpty || name.isEmpty || name.contains '/' then none
    else some ⟨String.ofList zone, String.ofList name⟩
  | none => none

end NodeId

end ComputeNodes
