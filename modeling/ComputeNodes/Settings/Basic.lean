/-
Settings of a provider.

Settings are given as a table, all of whose keys must be known.  Lengths of time must be numbers
greater than zero (not-a-number passes, since it is not zero or less), and the others texts, of
which two may be missing.  The first fault in a fixed order is the one reported; a faulty value that
cannot be written out is reported for that.
-/
import ComputeNodes.Error
import ComputeNodes.Number.Seconds
import ComputeNodes.Value.Writable

namespace ComputeNodes

/-- What a provider is set up with. -/
structure Settings where
  /-- Who the caller is. -/
  identity : Option String := none
  /-- Where the caller's key is. -/
  credentialsPath : Option String := none
  /-- The pause between two looks at something that is waited for. -/
  operationInterval : Seconds := .double 2.0
  /-- How long to wait for anything. -/
  operationTimeout : Seconds := .double 600.0
  /-- The project whose images are offered besides those of the caller's own. -/
  imageProject : String := "google"
  /-- How the shared names of groups begin. -/
  groupLead : String := "gcenode"
  deriving Repr

namespace Settings

/-- The names of all settings, in order. -/
def names : List String :=
  ["credentials_path", "group_prefix", "identity", "image_project", "operation_interval",
    "operation_timeout"]

/-- A value as it is shown in what is said of it. -/
def shown (value : Value) : Except Error String :=
  (value.writable.mapError .whole).map Value.shown

/-- A length of time among the settings. -/
def seconds (t : Table) (name : String) (usual : Seconds) : Except Error Seconds :=
  let positive (length : Seconds) (value : Value) : Except Error Seconds := do
    if length.isZeroOrLess then
      throw (.configuration (.notPositive name (← shown value)))
    return length
  match t.find? name with
  | none => .ok usual
  | some (.int n) => positive (.whole n) (.int n)
  | some (.float x) => positive (.double x) (.float x)
  | some value => do throw (.configuration (.notSeconds name value.typeName (← shown value)))

/-- A text among the settings. -/
def text (t : Table) (name : String) (usual : String) : Except Error String :=
  match t.find? name with
  | none => .ok usual
  | some (.text s) => .ok s
  | some value => .error (.configuration (.notText name value.typeName))

/-- A text among the settings that may be missing. -/
def text? (t : Table) (name : String) : Except Error (Option String) :=
  match t.find? name with
  | none => .ok none
  | some .null => .ok none
  | some (.text s) => .ok (some s)
  | some value => .error (.configuration (.notText name value.typeName))

/-- The settings that a table of known keys gives. -/
def ofKnown (t : Table) : Except Error Settings := do
  let usual : Settings := {}
  let operationInterval ← seconds t "operation_interval" usual.operationInterval
  let operationTimeout ← seconds t "operation_timeout" usual.operationTimeout
  let identity ← text? t "identity"
  let credentialsPath ← text? t "credentials_path"
  let imageProject ← text t "image_project" usual.imageProject
  let groupLead ← text t "group_prefix" usual.groupLead
  return { identity, credentialsPath, operationInterval, operationTimeout, imageProject, groupLead }

/-- The settings that a table gives. -/
def ofTable (t : Table) : Except Error Settings := do
  let unknown := (t.keys.filter fun key => !names.contains key).mergeSort Text.inOrder
  if unknown ≠ [] then
    throw (.configuration (.unknownSettings unknown names))
  ofKnown t

/-- The settings that a value gives, which must be a table. -/
def ofValue : Value → Except Error Settings
  | .table t => ofTable t
  | value => .error (.configuration (.providerNotTable value.typeName))

end Settings

end ComputeNodes
