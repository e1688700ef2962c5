/-
Requests as tables of fields.

This is the form in which the service takes requests.  A request sets only the fields that are not
empty; the body of an insertion is the exception, whose texts, flags and parts are set in any case,
and only its lists are left out when they are empty.
-/
import ComputeNodes.Service.Request
import ComputeNodes.Value.Fields

namespace ComputeNodes

/-- The fields that the body of an insertion sets. -/
def InsertBody.fields (body : InsertBody) : Table :=
  let disk (d : NewDisk) : Value :=
    .table [("boot", .bool d.boot), ("auto_delete", .bool d.autoDelete),
      ("initialize_params", .table (Table.ofGiven [("source_image", d.sourceImage)]))]
  let access (a : NewAccess) : Value := .table (Table.ofGiven [("name", a.name), ("type_", a.type)])
  let interface (n : NewInterface) : Value :=
    .table (Table.ofGiven [("network", n.network)]
      ++ Table.ofList "access_configs" (n.accessConfigs.map access))
  let account (a : NewAccount) : Value :=
    .table (Table.ofGiven [("email", a.email)] ++ Table.ofList "scopes" a.scopes)
  let item : String × Value → Value
    | (key, value) => .table (Table.ofGiven [("key", .text key), ("value", value)])
  Table.ofGiven [("name", body.name), ("machine_type", body.machineType)]
    ++ Table.ofList "disks" (body.disks.map disk)
    ++ Table.ofList "network_interfaces" (body.networkInterfaces.map interface)
    ++ [("metadata", .table (Table.ofList "items" (body.metadata.map item))),
      ("tags", .table (Table.ofList "items" body.tags))]
    ++ Table.ofList "service_accounts" (body.serviceAccounts.map account)
    ++ Table.ofGiven [("description", body.description)]

/-- A number of results as a request holds it. -/
def ListQuery.count (query : ListQuery) : Value :=
  match query.maxResults.amount? with
  | some n => .int n
  | none => .null

/-- The fields that a request sets. -/
def Request.fields (request : Request) : Table :=
  let texts : Table := request.texts.filter fun entry => !entry.2.isNothing
  match request with
  | .list _ query => texts ++ Table.ofGiven [("max_results", query.count)]
  | .insertInstance _ _ body => texts ++ [("instance_resource", .table body.fields)]
  | _ => texts

end ComputeNodes
