/-
Talking to the service.

`call` makes one request; everything else here is made of it.  "No such thing" is an answer and not
an error: reading, deleting or listing what is not there gives nothing, or an empty page.  Only an
insertion passes it on.

A listing asks for its first page right away, and for every other one when it is needed, with the
same scope and the marker of the page before.
-/
import ComputeNodes.Listing.Paged
import ComputeNodes.Service.Request

namespace ComputeNodes

/-- A computation that makes requests. -/
abbrev Calls (τ σ α : Type) := Act τ σ Exchange α

/-- What a page is asked for with.  Whatever counts as nothing is left out. -/
def ListQuery.ofScope (scope : ListScope) (marker : Value) : ListQuery :=
  let options := scope.options.getD {}
  { project := scope.project
    zone := scope.zone.orNull
    pageToken := marker.orNull
    filter := options.filter.orNull
    maxResults := options.maxResults.orNull }

/-- The machine types of a zone, or those of all zones where none is given. -/
abbrev Listed.machineTypesIn (zone : Value) : Listed := .machineTypes zone.isNothing

section

variable {τ σ : Type} [Server τ σ]

/-- Makes a request, if it can be made. -/
def call (request : Request) : Calls τ σ request.Reply := do
  Act.ofExcept (request.check.mapError .unmade)
  let (answer, now, world) := Server.respond (← Act.now) (← Act.world) request
  Act.setNow now
  Act.setWorld world
  Act.note (.call ⟨request, answer⟩)
  Act.ofExcept answer

/-! ### Listings -/

namespace Listed

/-- One page of a listing. -/
def page (what : Listed) (scope : ListScope) (marker : Value) :
    Calls τ σ (ListPage what.Item) := do
  let query := ListQuery.ofScope scope marker
  match ← Act.found? (call (.list what query)) with
  | none => return {}
  | some (message : PageMessage what.Message) =>
    return {
      items := message.items.flatMap (what.read query.project)
      nextMarker := message.nextPageToken.something? }

/-- A whole listing. -/
def list (what : Listed) (scope : ListScope) : Calls τ σ (Paged τ σ Exchange what.Item) := do
  let first ← what.page scope .null
  Act.ofExcept (Paged.advance first scope fun marker scope => what.page scope marker)

end Listed

/-! ### Single resources -/

/-- Reads an instance. -/
def getInstance (project zone name : Value) : Calls τ σ (Option Instance) := do
  let message ← Act.found? (call (.getInstance project zone name))
  return message.map InstanceMessage.toInstance

/-- Asks for a new instance, and gives the operation that makes it. -/
def insertInstance (project zone name : Value) (spec : InstanceSpec) : Calls τ σ Operation := do
  let (message : OperationMessage) ←
    call (.insertInstance project zone (InsertBody.ofSpec name spec))
  let operation := message.toOperation
  Act.log .debug .client ("Submitted insert of " ++ name.plain ++ ": " ++ operation.name.plain)
  return operation

/-- Deletes an instance, and gives the operation that does it; none when there is no such
instance. -/
def deleteInstance (project zone name : Value) : Calls τ σ (Option Operation) := do
  let message ← Act.found? (call (.deleteInstance project zone name))
  return message.map OperationMessage.toOperation

/-- Finds a machine type by its name, in a zone or across all zones.  Across all zones it is the
first one that a listing of that name gives. -/
def getMachineType (limit : Nat) (project zone name : Value) :
    Calls τ σ (Option MachineType) := do
  if zone.isNothing then
    let options : ListOptions := { filter := .text ("name = " ++ name.plain) }
    let listing ← Listed.list (.machineTypes true) { project, zone, options := some options }
    listing.head? limit
  else
    let message ← Act.found? (call (.getMachineType project zone name))
    return message.map MachineTypeMessage.toMachineType

/-- Reads an image of a project. -/
def getImage (project name : Value) : Calls τ σ (Option Image) := do
  let message ← Act.found? (call (.getImage project name))
  return message.map fun message => message.toImage project

/-- Reads a zone. -/
def getZone (project name : Value) : Calls τ σ (Option Zone) := do
  let message ← Act.found? (call (.getZone project name))
  return message.map ZoneMessage.toZone

/-- Reads an operation, of a zone or a global one. -/
def getOperation (project zone name : Value) : Calls τ σ (Option Operation) := do
  let message ← Act.found? (call (.getOperation project zone name))
  return message.map OperationMessage.toOperation

/-- Reads a project. -/
def getProject (id : Value) : Calls τ σ (Option Project) := do
  let message ← Act.found? (call (.getProject id))
  return message.map ProjectMessage.toProject

end

end ComputeNodes
