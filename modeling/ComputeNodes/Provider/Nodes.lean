/-
Nodes that are there already: listing, finding and destroying them.

All nodes are those of all zones.  The zones are walked page by page, and the nodes of every zone
of a page before the next page is asked for.  A node that is met again with the very same record
counts once.
-/
import ComputeNodes.Node.Id
import ComputeNodes.Provider.Basic

namespace ComputeNodes

/-- The identifier of the node that an instance is. -/
def Instance.nodeId (i : Instance) : NodeId := ⟨i.zone.plain, i.name.plain⟩

/-- Whether an instance is among those asked for, by its bare name or its identifier. -/
def Instance.isNamedBy (i : Instance) (ids : List Value) : Bool :=
  ids.any i.name.alike || ids.contains (.text i.nodeId.write)

namespace Provider

variable {τ σ : Type} [Server τ σ]

/-- The zone and name in a node identifier. -/
def readId (text : String) : Work τ σ NodeId :=
  match NodeId.read? text with
  | some id => pure id
  | none => Act.fail (.malformedNodeId text)

/-- Reads a node. -/
def getNode (p : Provider) (id : String) : Work τ σ (Option Instance) := do
  let id ← readId id
  getInstance (← p.project) id.zone id.name

/-- All nodes of all zones, each record once. -/
def listNodes (p : Provider) : Work τ σ (List Instance) := do
  let project ← p.project
  let zones ← Listed.zones.list { project }
  zones.fold p.patience.limit [] fun nodes page =>
    page.items.foldlM (fun nodes zone =>
      p.addDistinct .instances nodes { project, zone := zone.name }) nodes

/-- The nodes that are among those asked for. -/
def listNodesByIds (p : Provider) (ids : List Value) : Work τ σ (List Instance) := do
  if let some id := ids.find? (!·.canBeKey) then
    Act.fail (.use (.notKey id.typeName))
  return (← p.listNodes).filter (·.isNamedBy ids)

variable [Clock τ]

/-- Destroys a node, and waits until that is done.  A node that is gone already is no error. -/
def destroyNode (p : Provider) (id : String) : Work τ σ Unit := do
  let node ← readId id
  match ← deleteInstance (← p.project) node.zone node.name with
  | none => Act.log .info .adapter ("Instance " ++ id ++ " already gone")
  | some operation =>
    Act.log .info .adapter ("Deleting instance " ++ id)
    let _ ← p.lookup.await p.patience operation

/-- What a provider has no way to do. -/
def refuse (action : LifecycleAction) : Work τ σ Unit := Act.fail (.unsupported action)

end Provider

end ComputeNodes
