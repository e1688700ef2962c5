/-
Requests and their answers.

Every request goes to an endpoint, and the endpoint says what its answers are made of
(`Endpoint.Reply`).  A request may be asked for with any values, and is made only if they fit it
(`Request.check`).  A `Server` is whatever answers requests: a script, a table, or a state of its
own that changes with every request.  It may take its time, so it says when an answer is there.
-/
import ComputeNodes.Error
import ComputeNodes.Listing.Page
import ComputeNodes.Service.Insert
import ComputeNodes.Service.Message

namespace ComputeNodes

/-- What is listed.  Machine types are listed for one zone or across all zones. -/
inductive Listed where
  | instances
  | machineTypes (acrossZones : Bool)
  | images
  | zones
  deriving DecidableEq, Repr

namespace Listed

/-- What a page of a listing is made of.  Across all zones, machine types come in groups. -/
abbrev Message : Listed → Type
  | .instances => InstanceMessage
  | .machineTypes false => MachineTypeMessage
  | .machineTypes true => String × List MachineTypeMessage
  | .images => ImageMessage
  | .zones => ZoneMessage

/-- The records that a listing gives. -/
abbrev Item : Listed → Type
  | .instances => Instance
  | .machineTypes _ => MachineType
  | .images => Image
  | .zones => Zone

/-- Reads the records out of one part of a page of a project's listing. -/
def read (project : Value) : (what : Listed) → what.Message → List what.Item
  | .instances, message => [message.toInstance]
  | .machineTypes false, message => [message.toMachineType]
  | .machineTypes true, (_, group) => group.map MachineTypeMessage.toMachineType
  | .images, message => [message.toImage project]
  | .zones, message => [message.toZone]

end Listed

/-- Where a request goes. -/
inductive Endpoint where
  | list (what : Listed)
  | getInstance
  | insertInstance
  | deleteInstance
  | getMachineType
  | getImage
  | getZone
  | getOperation (zonal : Bool)
  | getProject
  deriving DecidableEq, Repr

namespace Endpoint

/-- All endpoints, with their names and the names of their requests. -/
def named : List (Endpoint × String × String) :=
  [(.list .instances, "instances.list", "ListInstancesRequest"),
   (.list (.machineTypes false), "machines.list", "ListMachineTypesRequest"),
   (.list (.machineTypes true), "machines.aggregated_list", "AggregatedListMachineTypesRequest"),
   (.list .images, "images.list", "ListImagesRequest"),
   (.list .zones, "zones.list", "ListZonesRequest"),
   (.getInstance, "instances.get", "GetInstanceRequest"),
   (.insertInstance, "instances.insert", "InsertInstanceRequest"),
   (.deleteInstance, "instances.delete", "DeleteInstanceRequest"),
   (.getMachineType, "machines.get", "GetMachineTypeRequest"),
   (.getImage, "images.get", "GetImageRequest"),
   (.getZone, "zones.get", "GetZoneRequest"),
   (.getOperation true, "zone_operations.get", "GetZoneOperationRequest"),
   (.getOperation false, "global_operations.get", "GetGlobalOperationRequest"),
   (.getProject, "projects.get", "GetProjectRequest")]

/-- The name of an endpoint, and that of its requests. -/
def names (e : Endpoint) : String × String := (named.lookup e).getD ("", "")

/-- The endpoint of a name. -/
def ofName? (name : String) : Option Endpoint :=
  (named.find? fun entry => entry.2.1 == name).map Prod.fst

end Endpoint

/-- A page as the service sends it. -/
structure PageMessage (α : Type) where
  items : List α := []
  /-- Nothing on the last page. -/
  nextPageToken : Value := ""
  deriving Repr

/-- What an endpoint answers with. -/
abbrev Endpoint.Reply : Endpoint → Type
  | .list what => PageMessage what.Message
  | .getInstance => InstanceMessage
  | .insertInstance => OperationMessage
  | .deleteInstance => OperationMessage
  | .getMachineType => MachineTypeMessage
  | .getImage => ImageMessage
  | .getZone => ZoneMessage
  | .getOperation _ => OperationMessage
  | .getProject => ProjectMessage

/-- What one page of a listing is asked for with; null where nothing is asked. -/
structure ListQuery where
  project : Value
  zone : Value := .null
  pageToken : Value := .null
  filter : Value := .null
  maxResults : Value := .null
  deriving DecidableEq, Repr

inductive Request where
  | list (what : Listed) (query : ListQuery)
  | getInstance (project zone name : Value)
  | insertInstance (project zone : Value) (body : InsertBody)
  | deleteInstance (project zone name : Value)
  | getMachineType (project zone name : Value)
  | getImage (project name : Value)
  | getZone (project name : Value)
  /-- An operation without a zone is a global one. -/
  | getOperation (project zone name : Value)
  | getProject (name : Value)
  deriving DecidableEq, Repr

namespace Request

/-- Where a request goes. -/
def endpoint : Request → Endpoint
  | .list what _ => .list what
  | .getInstance .. => .getInstance
  | .insertInstance .. => .insertInstance
  | .deleteInstance .. => .deleteInstance
  | .getMachineType .. => .getMachineType
  | .getImage .. => .getImage
  | .getZone .. => .getZone
  | .getOperation _ zone _ => .getOperation !zone.isNothing
  | .getProject _ => .getProject

/-- The texts of a request, by name. -/
def texts : Request → Entries Value
  | .list _ query =>
    [("project", query.project), ("zone", query.zone), ("page_token", query.pageToken),
      ("filter", query.filter)]
  | .getInstance project zone name =>
    [("project", project), ("zone", zone), ("instance", name)]
  | .insertInstance project zone _ => [("project", project), ("zone", zone)]
  | .deleteInstance project zone name =>
    [("project", project), ("zone", zone), ("instance", name)]
  | .getMachineType project zone name =>
    [("project", project), ("zone", zone), ("machine_type", name)]
  | .getImage project name => [("project", project), ("image", name)]
  | .getZone project name => [("project", project), ("zone", name)]
  | .getOperation project zone name =>
    if zone.isNothing then [("project", project), ("operation", name)]
    else [("project", project), ("zone", zone), ("operation", name)]
  | .getProject name => [("project", name)]

/-- The first number of results that is too large to be asked for. -/
def maxResultsBound : Nat := 0x100000000

/-- Checks the number of results that a message asks for. -/
def checkMaxResults (message : String) (count : Value) : Except MessageFault Unit :=
  match count with
  | .null => .ok ()
  | .bool _ => .ok ()
  | .int (.ofNat n) => if n < maxResultsBound then .ok () else .error (.outOfRange n)
  | .int n => .error (.outOfRange n)
  | v => .error (.notWhole message v.typeName)

/-- Checks that a request can be made: its body first, where it has one, and then its texts. -/
def check (request : Request) : Except MessageFault Unit := do
  let message := request.endpoint.names.2
  let texts := request.texts.map Prod.snd
  match request with
  | .list _ query =>
    if Texts.holdsTable query.maxResults then
      throw .table
    Texts.check message texts
    checkMaxResults message query.maxResults
  | .insertInstance _ _ body =>
    body.check
    Texts.check message texts
  | _ => Texts.check message texts

/-- What a request is answered with. -/
abbrev Reply (request : Request) : Type := request.endpoint.Reply

end Request

/-- What answers requests, each with a reply or an error, and changes with every one. -/
class Server (τ σ : Type) where
  /-- The answer to a request that is made at some time, the time at which it is there, and what
  became of the server. -/
  respond : τ → σ → (request : Request) → Except Error request.Reply × τ × σ

/-- A request and its answer. -/
structure Exchange where
  request : Request
  answer : Except Error request.Reply

end ComputeNodes
