/-
Making nodes.

A template is checked before anything else is done; then the machine type is looked up, the
instance is asked for once, and what follows only waits: for the operation, where the options say
so, and then until the instance can be read, which may take longer.  Nothing that was asked for is
ever asked for again.
-/
import ComputeNodes.Node.Credentials
import ComputeNodes.Node.Id
import ComputeNodes.Provider.Basic

namespace ComputeNodes

/-- A new node, the identifier it is found by, and how to log in to it. -/
structure NewNode where
  node : Instance
  id : NodeId
  credentials : LoginCredentials
  deriving DecidableEq, Repr

/-- A template that can be made into a node. -/
structure CheckedTemplate where
  hardware : String
  zone : String
  image : TemplateImage
  imageUri : String
  network : String
  options : NodeOptions
  deriving DecidableEq, Repr

/-- Checks a template: its options, their network, the location and the image, in this order. -/
def NodeTemplate.check (t : NodeTemplate) : Except TemplateFault CheckedTemplate := do
  if t.optionSet.missing ≠ [] then
    throw (.lacksCapabilities t.optionSet.typeName)
  let options := t.optionSet.options
  let some network := options.network.bind nonEmpty? | throw .noNetwork
  if !t.location.isZone then
    throw (.notZone t.location)
  let some imageUri := t.image.uri.bind nonEmpty? | throw (.imageWithoutUri t.image.id)
  return { hardware := t.hardware, zone := t.location.id, image := t.image, imageUri, network,
           options }

/-- The credentials that are derived for a new node. -/
def CheckedTemplate.derived (t : CheckedTemplate) : DerivedCredentials :=
  DerivedCredentials.derive t.image t.options

/-- The interface of a new node in a network, with an address of its own where it is to be reached
from outside. -/
def CheckedTemplate.interface (t : CheckedTemplate) (project : Value) : NetworkInterface :=
  { network := Uri.network project.plain t.network
    accessConfigs := if t.options.enableNat then [{}] else [] }

/-- Tags with the shared name of a group among them. -/
def GroupNaming.tags (naming : GroupNaming) (group : String) (tags : List String) : List String :=
  let shared := naming.sharedName group
  if shared ∈ tags then tags else tags ++ [shared]

/-- The specification of the instance behind a new node. -/
def CheckedTemplate.spec (t : CheckedTemplate) (naming : GroupNaming) (project : Value)
    (group : String) (machineType : MachineType) (derived : DerivedCredentials) : InstanceSpec :=
  { machineType := machineType.selfLink.something?.getD machineType.name
    image := t.imageUri
    networkInterfaces := [t.interface project]
    metadata := (Metadata.ofOptions t.options derived).map fun (key, text) => (key, .text text)
    tags := (naming.tags group t.options.tags).map .text
    serviceAccounts := t.options.serviceAccounts.map fun account =>
      ⟨account.email, account.scopes.map .text⟩ }

/-- What is logged of an instance that is about to be asked for. -/
def CheckedTemplate.announcement (t : CheckedTemplate) (group name : String)
    (machineType : MachineType) : String :=
  "Creating instance " ++ name ++ " in " ++ t.zone ++ " (group=" ++ group ++ ", type="
    ++ machineType.name.plain ++ ")"

namespace Provider

variable {τ σ : Type} [Server τ σ] [Clock τ]

/-- Waits until an instance can be read. -/
def awaitVisible (p : Provider) (project : Value) (zone name : String) : Work τ σ Instance := do
  let visible ← pollUntilPresent p.patience ("instance " ++ zone ++ "/" ++ name)
    (getInstance project zone name)
  match visible.value with
  | some node => return node
  | none => Act.fail (← Act.ofExcept (Error.visibilityTimeout? zone name p.patience.timeout))

/-- Asks for the instance behind a new node, and gives its project and the operation that makes
it. -/
def submit (p : Provider) (group name : String) (template : CheckedTemplate) :
    Work τ σ (Value × Operation) := do
  let project ← p.project
  let zone := template.zone
  let some machineType ← getMachineType p.patience.limit project zone template.hardware
    | Act.fail (.machineTypeNotFound template.hardware project.plain zone)
  Act.log .info .adapter (template.announcement group name machineType)
  let operation ← insertInstance project zone name
    (template.spec p.naming project group machineType template.derived)
  return (project, operation)

/-- Waits for the instance behind a new node: for the operation that makes it, where the options say
so, and then until it can be read. -/
def awaitNode (p : Provider) (name : String) (template : CheckedTemplate) (project : Value)
    (operation : Operation) : Work τ σ Instance := do
  if template.options.blockUntilRunning then
    let _ ← p.lookup.await p.patience operation
  p.awaitVisible project template.zone name

/-- Makes a node of a group. -/
def createNode (p : Provider) (group name : String) (template : NodeTemplate) :
    Work τ σ NewNode := do
  let template ← Act.ofExcept (template.check.mapError .template)
  let (project, operation) ← p.submit group name template
  let node ← p.awaitNode name template project operation
  let id : NodeId := ⟨template.zone, name⟩
  Act.log .info .adapter
    ("Instance " ++ id.write ++ " is visible at " ++ (node.externalIp.getD "no external ip").plain)
  return { node, id, credentials := template.derived.credentials }

end Provider

end ComputeNodes
