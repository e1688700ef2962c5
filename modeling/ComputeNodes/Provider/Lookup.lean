/-
Waiting for operations.

An operation is looked up again and again, in the project and the zone it belongs to, until it is
done.  What is kept between two looks is the latest view of those that were furthest: an operation
that cannot be found, or that seems to have gone back, leaves the view as it was.

A failed operation is done as well.  Whether it failed is asked only after the wait.
-/
import ComputeNodes.Run.Poll

namespace ComputeNodes

/-- Where operations are looked up. -/
structure Lookup (τ σ ε : Type) where
  /-- The project whose operations they are. -/
  project : Act τ σ ε Value
  /-- Finds an operation of a project by its zone and name. -/
  find : Value → Value → Value → Act τ σ ε (Option Operation)

namespace Lookup

variable {τ σ ε : Type}

/-- The place of an operation's status. -/
def rank (o : Operation) : Act τ σ ε Nat := Act.ofExcept (Status.placeOf o.status.word)

/-- Reads an operation again, in the zone and by the name that its kept view has. -/
def reread (lookup : Lookup τ σ ε) (kept : Operation) : Act τ σ ε (Option Operation) := do
  lookup.find (← lookup.project) kept.zone kept.name

/-- Says which view of an operation to keep, the one that was kept or the one just read. -/
def judge (kept : Operation) : Option Operation → Act τ σ ε (Probe Operation)
  | none => do
    Act.log .warning .operations ("Operation " ++ kept.name.plain ++ " not found on re-read")
    return { value := kept, done := false }
  | some fresh => do
    let new ← rank fresh
    let old ← rank kept
    if new < old then
      Act.log .warning .operations
        ("Operation " ++ kept.name.plain ++ " went back from "
          ++ kept.status.word.plain ++ " to " ++ fresh.status.word.plain ++ "; keeping "
          ++ kept.status.word.plain)
      return { value := kept, done := kept.isDone }
    else
      Act.log .trace .operations
        ("Operation " ++ fresh.name.plain ++ " status=" ++ fresh.status.word.plain
          ++ " progress=" ++ fresh.progress.plain)
      return { value := fresh, done := fresh.isDone }

/-- Looks an operation up again, and says which view of it to keep. -/
def look (lookup : Lookup τ σ ε) (kept : Operation) : Act τ σ ε (Probe Operation) := do
  judge kept (← lookup.reread kept)

variable [Clock τ]

/-- What a wait for an operation comes to. -/
def conclude (patience : Patience) (polled : Polled Operation) : Act τ σ ε Operation := do
  let final := polled.value
  if !polled.succeeded then
    Act.fail (← Act.ofExcept (Error.operationTimeout? final patience.timeout))
  match final.failure? with
  | some error =>
    Act.log .error .operations
      ("Operation " ++ final.name.plain ++ " failed: " ++ error.statusCode.plain ++ " "
        ++ error.message.plain)
    Act.fail (.operationFailed error.statusCode error.message (some final))
  | none =>
    Act.log .debug .operations
      ("Operation " ++ final.name.plain ++ " done after " ++ toString polled.attempts ++ " poll(s)")
    return final

/-- Waits until an operation is done, and gives its last view.  It is an error when it is not done
in time or has failed. -/
def await (lookup : Lookup τ σ ε) (patience : Patience) (operation : Operation) :
    Act τ σ ε Operation := do
  let polled ← retryUntil patience ("operation " ++ operation.name.plain) fun last =>
    lookup.look (last.getD operation)
  conclude patience polled

end Lookup

end ComputeNodes
