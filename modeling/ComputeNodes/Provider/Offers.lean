/-
What nodes can be made of: hardware, images and locations.

The images on offer are those of the caller's own project together with those of the shared image
project.
-/
import ComputeNodes.Provider.Basic

namespace ComputeNodes.Provider

variable {τ σ : Type} [Server τ σ]

/-- The machine types of all zones. -/
def listHardware (p : Provider) : Work τ σ (List MachineType) := do
  p.listAll (.machineTypes true) { project := ← p.project }

/-- The images of the caller's project and of the shared one, each record once. -/
def listImages (p : Provider) : Work τ σ (List Image) := do
  let own ← p.addDistinct .images [] { project := ← p.project }
  p.addDistinct .images own { project := p.imageProject }

/-- Finds an image, first in the caller's project and then in the shared one. -/
def findImage (p : Provider) (name : Value) : Work τ σ (Option Image) := do
  match ← getImage (← p.project) name with
  | some image => return some image
  | none => getImage p.imageProject name

/-- The zones. -/
def listLocations (p : Provider) : Work τ σ (List Zone) := do
  p.listAll .zones { project := ← p.project }

end ComputeNodes.Provider
