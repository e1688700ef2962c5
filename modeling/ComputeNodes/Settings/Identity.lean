/-
Who the caller is.

The settings say so, or else the environment does, or else the credentials that the caller works
with by default.  Whatever is empty does not count.
-/
import ComputeNodes.Provider.Basic
import ComputeNodes.Settings.Basic

namespace ComputeNodes

/-- What there is to know about a caller besides the settings. -/
structure Surroundings where
  /-- The projects that the environment names, in the order in which they count. -/
  projects : List String := []
  /-- The project of the default credentials, or why there are none. -/
  defaultProject : Except String (Option String) := .ok none

namespace Settings

/-- The variables of the environment that name a project, in the order in which they count. -/
def projectVariables : List String := ["GOOGLE_CLOUD_PROJECT", "GCLOUD_PROJECT"]

/-- The identity of the caller. -/
def resolveIdentity (s : Settings) (surroundings : Surroundings) :
    Except ConfigurationFault String :=
  match s.identity.bind nonEmpty?, surroundings.projects.find? (· ≠ "") with
  | some identity, _ => .ok identity
  | none, some project => .ok project
  | none, none =>
    match surroundings.defaultProject with
    | .error reason => .error (.noCredentials reason)
    | .ok project =>
      match project.bind nonEmpty? with
      | some project => .ok project
      | none => .error .noProject

/-- How settings are named that are handed over one by one. -/
def constructor : String := "GCE.__init__"

/-- The settings that are handed over one by one, of which the first unknown one is reported. -/
def ofArguments (t : Table) : Except Error Settings :=
  match t.keys.find? fun key => !names.contains key with
  | some key =>
    .error (.call (if key = "self" then .twice constructor key else .unexpected constructor key))
  | none => ofKnown t

/-- The provider that settings describe. -/
def provider (s : Settings) (surroundings : Surroundings) (limit : Nat) :
    Except ConfigurationFault Provider := do
  return {
    identity := ← s.resolveIdentity surroundings
    patience := { timeout := s.operationTimeout, interval := s.operationInterval, limit }
    imageProject := s.imageProject
    naming := { lead := s.groupLead } }

end Settings

end ComputeNodes
