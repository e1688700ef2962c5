/-
A service that knows no other words for a status.

`AsPending` is a service that answers like another one, but for the word for the status of an
operation: where that is none of the known ones, it says that the operation is pending.  Nobody who
reads operations can tell the two apart, because the records that are read are the same
(`getOperation_mimics`).
-/
import ComputeNodes.Proofs.Run.Image
import ComputeNodes.Proofs.Service.Account

namespace ComputeNodes

/-- A message that says of every operation that is neither running nor done that it is pending. -/
def OperationMessage.asPending (m : OperationMessage) : OperationMessage :=
  if m.status = "RUNNING" ∨ m.status = "DONE" then m else { m with status := "PENDING" }

/-- **An unknown status counts as pending.** -/
theorem OperationMessage.toOperation_asPending (m : OperationMessage) :
    m.asPending.toOperation = m.toOperation := by
  unfold asPending
  by_cases hknown : m.status = "RUNNING" ∨ m.status = "DONE"
  · rw [if_pos hknown]
  · rw [if_neg hknown]
    have hstatus : m.knownStatus = .pending := by
      unfold knownStatus Status.ofWord
      simp only [not_or] at hknown
      by_cases hpending : m.status = "PENDING" <;> simp [hpending, hknown]
    unfold toOperation
    rw [hstatus]
    rfl

/-- An answer with the words for pending operations in place of unknown ones. -/
def Request.asPending : (request : Request) → Except Error request.Reply →
    Except Error request.Reply
  | .getOperation .., .ok message => .ok (OperationMessage.asPending message)
  | _, answer => answer

def Exchange.asPending (e : Exchange) : Exchange := ⟨e.request, e.request.asPending e.answer⟩

/-- A service whose words for unknown statuses are replaced. -/
structure AsPending (σ : Type) where
  server : σ

variable {τ σ α : Type} [Server τ σ]

instance : Server τ (AsPending σ) where
  respond now world request :=
    let (answer, now, server) := Server.respond now world.server request
    (request.asPending answer, now, ⟨server⟩)

/-- The same account on such a service. -/
def Account.asPending (account : Account σ) : Account (AsPending σ) :=
  { server := ⟨account.server⟩, project := account.project }

/-- The same session with such a service. -/
abbrev Session.asPending (s : Session τ (Account σ) Exchange) :
    Session τ (Account (AsPending σ)) Exchange :=
  s.image Account.asPending Exchange.asPending

/-- One request that is read, whether or not there is such a thing. -/
theorem perform_read (request : Request) (f : request.Reply → α) (s : Session τ σ Exchange) :
    (do return (← Act.found? (call request)).map f : Calls τ σ _).perform s
      = match request.check with
        | .error fault => (.error (.failed (.unmade fault)), s)
        | .ok _ =>
          match Server.respond s.now s.world request with
          | (answer, now, world) =>
            (readAnswer f answer, { s with now, world }.add (.call ⟨request, answer⟩)) := by
  rw [Act.perform_bind, Act.perform_found?, perform_call]
  cases request.check with
  | error fault => simp [Act.foundResult, Error.isNotFound_unmade]
  | ok _ =>
    rcases Server.respond s.now s.world request with ⟨answer, now, world⟩
    dsimp only
    rw [readAnswer_eq]
    cases Act.foundResult (answer.mapError .failed) <;> rfl

/-- What is read of an answer is the same, whether or not it holds unknown words. -/
theorem read_mimics {request : Request} {f : request.Reply → α}
    (hf : ∀ answer, readAnswer f (request.asPending answer) = readAnswer f answer) :
    (do return (← Act.found? (call request)).map f : Calls τ (Account (AsPending σ)) _).Mimics
      Account.asPending Exchange.asPending
      (do return (← Act.found? (call request)).map f : Calls τ (Account σ) _) := by
  intro s
  rw [perform_read, perform_read]
  cases request.check with
  | error fault => rfl
  | ok _ =>
    have hrespond : Server.respond s.asPending.now s.asPending.world request
        = match Server.respond s.now s.world request with
          | (answer, now, account) => (request.asPending answer, now, account.asPending) := rfl
    rw [hrespond]
    rcases Server.respond s.now s.world request with ⟨answer, now, account⟩
    dsimp only
    rw [hf, Session.image_add]
    rfl

theorem getOperation_mimics (project zone name : Value) :
    (getOperation project zone name : Calls τ (Account (AsPending σ)) _).Mimics
      Account.asPending Exchange.asPending
      (getOperation project zone name : Calls τ (Account σ) _) := by
  refine read_mimics fun answer => ?_
  cases answer with
  | error error => rfl
  | ok message =>
    exact congrArg (fun o => Except.ok (some o)) (OperationMessage.toOperation_asPending message)

theorem getProject_mimics (id : Value) :
    (getProject id : Calls τ (Account (AsPending σ)) _).Mimics
      Account.asPending Exchange.asPending (getProject id : Calls τ (Account σ) _) :=
  read_mimics fun _ => rfl

namespace Account

theorem projectName_mimics (identity : String) :
    (projectName identity : Calls τ (Account (AsPending σ)) _).Mimics
      asPending Exchange.asPending (projectName identity : Calls τ (Account σ) _) := by
  have hresolve : (resolveProject identity : Calls τ (Account (AsPending σ)) _).Mimics
      asPending Exchange.asPending (resolveProject identity : Calls τ (Account σ) _) := by
    unfold resolveProject
    split
    · exact .pure _
    · refine (getProject_mimics _).bind fun found => ?_
      cases found with
      | none => exact .fail _
      | some project => exact (Act.Mimics.log _ _ _).bind fun _ => .pure _
  have hread : (do return (← Act.world).project : Calls τ (Account (AsPending σ)) _).Mimics
      asPending Exchange.asPending
      (do return (← Act.world).project : Calls τ (Account σ) _) := fun _ => rfl
  have hwrite (project : Memo Value) :
      (do Act.setWorld { ← Act.world with project } : Calls τ (Account (AsPending σ)) _).Mimics
        asPending Exchange.asPending
        (do Act.setWorld { ← Act.world with project } : Calls τ (Account σ) _) := fun _ => rfl
  unfold projectName Memo.force
  refine hread.bind fun known => ?_
  split
  · exact .pure _
  · exact hresolve.bind fun project => (hwrite _).bind fun _ => .pure _

end Account

end ComputeNodes
