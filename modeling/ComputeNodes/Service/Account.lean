/-
Callers of the service and their projects.

A caller is known by an identity.  One without an `@` is the name of the caller's project; of any
other, what is in front of the first `@` is the id of a project, whose name the service tells.  An
account keeps that name once it is known.
-/
import ComputeNodes.Memo
import ComputeNodes.Service.Client
import ComputeNodes.Text.Split

namespace ComputeNodes

/-- The service as one caller works with it. -/
structure Account (σ : Type) where
  server : σ
  /-- The name of the caller's project, as the service gave it. -/
  project : Memo Value := {}

section

variable {τ σ : Type} [Server τ σ]

/-- An account passes requests on. -/
instance : Server τ (Account σ) where
  respond now account request :=
    let (answer, now, server) := Server.respond now account.server request
    (answer, now, { account with server })

/-- What separates the id of a project from the rest of an identity. -/
def identitySeparator : Char := '@'

/-- The name of the project that an identity stands for. -/
def resolveProject (identity : String) : Calls τ σ Value := do
  if identitySeparator ∉ identity.toList then
    return .text identity
  let id := Text.before identitySeparator identity
  match ← getProject (.text id) with
  | none => Act.fail (.configuration (.projectNotFound id identity))
  | some project =>
    Act.log .info .project ("Resolved project " ++ id ++ " -> " ++ project.name.plain)
    return project.name

namespace Account

/-- The name of the caller's project, which is resolved only until that has succeeded once. -/
def projectName (identity : String) : Calls τ (Account σ) Value :=
  Memo.force
    (do return (← Act.world).project)
    (fun project => do Act.setWorld { ← Act.world with project })
    (resolveProject identity)

/-- Forgets the name of the caller's project. -/
def forgetProject : Calls τ (Account σ) Unit := do
  let account ← Act.world
  Act.setWorld { account with project := account.project.reset }

end Account

end

end ComputeNodes
