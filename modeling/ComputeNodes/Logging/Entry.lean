/-
What the library itself logs.

Every part of the library logs under a name of its own and with one bound field.
-/
import ComputeNodes.Entries
import ComputeNodes.Logging.Level

namespace ComputeNodes.Logging

/-- The parts of the library that log. -/
inductive Source where
  | wait
  | paging
  | project
  | operations
  | client
  | adapter
  deriving DecidableEq, Repr

namespace Source

/-- The name a part logs under. -/
def loggerName : Source → String
  | .wait => "gcenode.providers.wait"
  | .paging => "gcenode.providers.paging"
  | .project => "gcenode.providers.gce.project"
  | .operations => "gcenode.providers.gce.operations"
  | .client => "gcenode.providers.gce.client"
  | .adapter => "gcenode.providers.gce.adapter"

/-- The field a part binds to all of its records. -/
def fields : Source → Entries String
  | .wait => [("component", "wait")]
  | .paging => [("component", "paging")]
  | _ => [("provider", "gce")]

end Source

/-- One record. -/
structure Entry where
  level : Level
  source : Source
  text : String
  deriving DecidableEq, Repr

end ComputeNodes.Logging
